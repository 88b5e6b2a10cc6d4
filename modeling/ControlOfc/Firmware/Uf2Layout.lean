import ControlOfc.Firmware.Uf2Parse
import Mathlib.Data.List.Induction
import Mathlib.Data.Nat.Basic
/-! # What the sectors of a parsed image write (serial/uf2.rs:84-188)

`Layout` is what the loop of `Image::sectors` keeps as it takes the pages in address order: runs that
neither touch nor overlap, and together exactly the bytes of the pages taken so far. With the parser's own
theorem it says of every file which bytes go where.
-/
namespace ControlOfc.Firmware

/-- The run writes byte `b` to `addr`. -/
def Run.Writes (r : Run) (addr b : Nat) : Prop := ∃ k, r.data[k]? = some b ∧ addr = r.addr + k

def RunsWrite (runs : List Run) (addr b : Nat) : Prop := ∃ r ∈ runs, r.Writes addr b

def SectorsWrite (sectors : List Sector) (addr b : Nat) : Prop := ∃ s ∈ sectors, RunsWrite s.runs addr b

/-- Byte `b` of one of the pages belongs at `addr`. -/
def Carried (pages : List Page) (addr b : Nat) : Prop := ∃ p ∈ pages, (Run.mk p.1 p.2).Writes addr b

section Writes

variable {addr b : Nat}

@[simp] theorem runsWrite_append {rs rs' : List Run} : RunsWrite (rs ++ rs') addr b ↔ RunsWrite rs addr b ∨ RunsWrite rs' addr b := by
  simp only [RunsWrite, List.mem_append, or_and_right, exists_or]

@[simp] theorem runsWrite_singleton {r : Run} : RunsWrite [r] addr b ↔ r.Writes addr b := by simp [RunsWrite]

@[simp] theorem sectorsWrite_append {ss ss' : List Sector} : SectorsWrite (ss ++ ss') addr b ↔ SectorsWrite ss addr b ∨ SectorsWrite ss' addr b := by
  simp only [SectorsWrite, List.mem_append, or_and_right, exists_or]

@[simp] theorem sectorsWrite_singleton {s : Sector} : SectorsWrite [s] addr b ↔ RunsWrite s.runs addr b := by simp [SectorsWrite]

@[simp] theorem carried_append {ps : List Page} {p : Page} :
    Carried (ps ++ [p]) addr b ↔ Carried ps addr b ∨ (Run.mk p.1 p.2).Writes addr b := by
  simp [Carried, or_and_right, exists_or]

/-- A run continued writes what it did, and the page after it. -/
theorem writes_extend {r : Run} {page : List Nat} :
    (Run.mk r.addr (r.data ++ page)).Writes addr b ↔ r.Writes addr b ∨ (Run.mk (r.addr + r.data.length) page).Writes addr b := by
  constructor
  · rintro ⟨k, hk, rfl⟩
    dsimp only at hk ⊢
    by_cases hin : k < r.data.length
    · rw [List.getElem?_append_left hin] at hk
      exact .inl ⟨k, hk, rfl⟩
    · rw [List.getElem?_append_right (Nat.not_lt.mp hin)] at hk
      exact .inr ⟨k - r.data.length, hk, by dsimp only; omega⟩
  · rintro (⟨k, hk, rfl⟩ | ⟨k, hk, rfl⟩)
    · have hin : k < r.data.length := (List.getElem?_eq_some_iff.mp hk).1
      exact ⟨k, by rwa [List.getElem?_append_left hin], rfl⟩
    · refine ⟨r.data.length + k, ?_, Nat.add_assoc _ _ _⟩
      rwa [List.getElem?_append_right (Nat.le_add_right _ _), Nat.add_sub_cancel_left]

end Writes

/-! ## One page more -/

/-- A page opens a sector, or a run of the last one, or continues the last run. -/
theorem addPage_cases (sectors : List Sector) (p : Page) :
    addPage sectors p = sectors ++ [⟨sectorBase p.1, [⟨p.1, p.2⟩]⟩] ∨
      (∃ init t, sectors = init ++ [t] ∧ (∀ r, t.runs.getLast? = some r → r.addr + r.data.length ≠ p.1) ∧
        addPage sectors p = init ++ [⟨t.base, t.runs ++ [⟨p.1, p.2⟩]⟩]) ∨
      ∃ init t rs r, sectors = init ++ [t] ∧ t.runs = rs ++ [r] ∧ r.addr + r.data.length = p.1 ∧
        addPage sectors p = init ++ [⟨t.base, rs ++ [⟨r.addr, r.data ++ p.2⟩]⟩] := by
  unfold addPage
  cases hlast : sectors.getLast? with
  | none =>
    rw [List.getLast?_eq_none_iff.mp hlast]
    exact .inl rfl
  | some t =>
    have hsectors := eq_dropLast_append hlast
    dsimp only
    by_cases hbase : t.base = sectorBase p.1
    · rw [if_pos hbase]
      right
      unfold Sector.addPage
      cases hrun : t.runs.getLast? with
      | none =>
        have hnil := List.getLast?_eq_none_iff.mp hrun
        left
        refine ⟨_, t, hsectors, fun r hr => ?_, ?_⟩
        · rw [hnil] at hr
          cases hr
        · rw [hnil]
          rfl
      | some r =>
        dsimp only
        by_cases hend : r.addr + r.data.length = p.1
        · rw [if_pos hend]
          exact .inr ⟨_, t, _, r, hsectors, eq_dropLast_append hrun, hend, rfl⟩
        · rw [if_neg hend]
          left
          refine ⟨_, t, hsectors, fun r' hr' => ?_, rfl⟩
          obtain rfl := Option.some.inj (hrun.symm.trans hr')
          exact hend
    · rw [if_neg hbase]
      exact .inl rfl

/-- The sectors of the pages taken so far, none of which ends above `limit`. -/
structure Layout (sectors : List Sector) (pages : List Page) (limit : Nat) : Prop where
  aligned : ∀ s ∈ sectors, s.base % sectorSize = 0
  apart : ∀ s ∈ sectors, s.runs.Pairwise fun r r' => r.addr + r.data.length < r'.addr
  nonempty : ∀ s ∈ sectors, ∀ r ∈ s.runs, r.data ≠ []
  ends : ∀ s ∈ sectors, ∀ r ∈ s.runs, r.addr + r.data.length ≤ limit
  bytes : ∀ addr b, SectorsWrite sectors addr b ↔ Carried pages addr b

section Step

variable {sectors init : List Sector} {pages : List Page} {limit : Nat} {p : Page}

theorem aligned_sectorBase (addr : Nat) : sectorBase addr % sectorSize = 0 := by
  simp only [sectorBase, sectorSize]
  omega

theorem PageOk.ne_nil (hp : PageOk p) : p.2 ≠ [] := by
  intro hnil
  have hlen := hp.payload
  rw [hnil] at hlen
  cases hlen

/-- The runs before a page end below it, unless the last of them touches it. -/
theorem Layout.below (h : Layout sectors pages limit) (hl : limit ≤ p.1) {t : Sector} (ht : t ∈ sectors)
    (hlast : ∀ r, t.runs.getLast? = some r → r.addr + r.data.length ≠ p.1) :
    ∀ r ∈ t.runs, r.addr + r.data.length < p.1 := by
  intro r hr
  have hends := fun r hr => (h.ends t ht r hr).trans hl
  cases hrun : t.runs.getLast? with
  | none =>
    rw [List.getLast?_eq_none_iff.mp hrun] at hr
    cases hr
  | some last =>
    have hlt : last.addr + last.data.length < p.1 :=
      lt_of_le_of_ne (hends last (List.mem_of_getLast? hrun)) (hlast last hrun)
    have happart := h.apart t ht
    rw [eq_dropLast_append hrun] at happart hr
    rcases List.mem_append.mp hr with hr | hr
    · have hbefore := (List.pairwise_append.mp happart).2.2 r hr last (List.mem_singleton_self _)
      omega
    · rw [List.mem_singleton.mp hr]
      exact hlt

/-- Replacing the last sector by one of the same base, with runs as they should be. -/
theorem Layout.replaceLast {t : Sector} {runs : List Run} (h : Layout (init ++ [t]) pages limit) (hl : limit ≤ p.1)
    (happart : runs.Pairwise fun r r' => r.addr + r.data.length < r'.addr) (hne : ∀ r ∈ runs, r.data ≠ [])
    (hends : ∀ r ∈ runs, r.addr + r.data.length ≤ p.1 + pageSize)
    (hbytes : ∀ addr b, RunsWrite runs addr b ↔ RunsWrite t.runs addr b ∨ (Run.mk p.1 p.2).Writes addr b) :
    Layout (init ++ [⟨t.base, runs⟩]) (pages ++ [p]) (p.1 + pageSize) := by
  have hinit : ∀ s ∈ init, s ∈ init ++ [t] := fun s hs => List.mem_append_left _ hs
  have ht : t ∈ init ++ [t] := List.mem_append_right _ (List.mem_singleton_self t)
  refine ⟨?_, ?_, ?_, ?_, ?_⟩
  · intro s hs
    rcases List.mem_append.mp hs with hs | hs
    · exact h.aligned s (hinit s hs)
    · rw [List.mem_singleton.mp hs]
      exact h.aligned t ht
  · intro s hs
    rcases List.mem_append.mp hs with hs | hs
    · exact h.apart s (hinit s hs)
    · rw [List.mem_singleton.mp hs]
      exact happart
  · intro s hs
    rcases List.mem_append.mp hs with hs | hs
    · exact h.nonempty s (hinit s hs)
    · rw [List.mem_singleton.mp hs]
      exact hne
  · intro s hs
    rcases List.mem_append.mp hs with hs | hs
    · exact fun r hr => (h.ends s (hinit s hs) r hr).trans (hl.trans (Nat.le_add_right _ _))
    · rw [List.mem_singleton.mp hs]
      exact hends
  · intro addr b
    have hold := h.bytes addr b
    simp only [sectorsWrite_append, sectorsWrite_singleton] at hold
    simp only [sectorsWrite_append, sectorsWrite_singleton, carried_append, hbytes, ← hold, or_assoc]

theorem Layout.addPage (h : Layout sectors pages limit) (hp : PageOk p) (hl : limit ≤ p.1) :
    Layout (addPage sectors p) (pages ++ [p]) (p.1 + pageSize) := by
  have hpage : p.1 + p.2.length = p.1 + pageSize := by rw [hp.payload]
  have hgrow : limit ≤ p.1 + pageSize := hl.trans (Nat.le_add_right _ _)
  rcases addPage_cases sectors p with heq | ⟨init, t, rfl, hlast, heq⟩ | ⟨init, t, rs, r, rfl, hruns, hend, heq⟩
  · rw [heq]
    refine ⟨?_, ?_, ?_, ?_, ?_⟩
    · exact List.forall_mem_append.mpr ⟨h.aligned, List.forall_mem_singleton.mpr (aligned_sectorBase _)⟩
    · exact List.forall_mem_append.mpr ⟨h.apart, List.forall_mem_singleton.mpr (List.pairwise_singleton _ _)⟩
    · refine List.forall_mem_append.mpr ⟨h.nonempty, List.forall_mem_singleton.mpr ?_⟩
      exact List.forall_mem_singleton.mpr hp.ne_nil
    · refine List.forall_mem_append.mpr ⟨fun s hs r hr => (h.ends s hs r hr).trans hgrow, List.forall_mem_singleton.mpr ?_⟩
      exact List.forall_mem_singleton.mpr hpage.le
    · intro addr b
      simp only [sectorsWrite_append, sectorsWrite_singleton, runsWrite_singleton, carried_append, h.bytes]
  · rw [heq]
    have ht : t ∈ init ++ [t] := List.mem_append_right _ (List.mem_singleton_self t)
    refine h.replaceLast hl ?_ ?_ ?_ fun addr b => by simp only [runsWrite_append, runsWrite_singleton]
    · refine List.pairwise_append.mpr ⟨h.apart t ht, List.pairwise_singleton _ _, fun r hr r' hr' => ?_⟩
      rw [List.mem_singleton.mp hr']
      exact h.below hl ht hlast r hr
    · exact List.forall_mem_append.mpr ⟨h.nonempty t ht, List.forall_mem_singleton.mpr hp.ne_nil⟩
    · exact List.forall_mem_append.mpr ⟨fun r hr => (h.ends t ht r hr).trans hgrow, List.forall_mem_singleton.mpr hpage.le⟩
  · rw [heq]
    have ht : t ∈ init ++ [t] := List.mem_append_right _ (List.mem_singleton_self t)
    have happart := h.apart t ht
    have hne := h.nonempty t ht
    have hends := h.ends t ht
    rw [hruns] at happart hne hends
    obtain ⟨hrs, -, hbefore⟩ := List.pairwise_append.mp happart
    refine h.replaceLast hl ?_ ?_ ?_ fun addr b => ?_
    · refine List.pairwise_append.mpr ⟨hrs, List.pairwise_singleton _ _, fun r₁ hr₁ r' hr' => ?_⟩
      rw [List.mem_singleton.mp hr']
      exact hbefore r₁ hr₁ r (List.mem_singleton_self _)
    · refine List.forall_mem_append.mpr ⟨(List.forall_mem_append.mp hne).1, List.forall_mem_singleton.mpr ?_⟩
      exact List.append_ne_nil_of_right_ne_nil _ hp.ne_nil
    · refine List.forall_mem_append.mpr ⟨fun r hr => ?_, List.forall_mem_singleton.mpr ?_⟩
      · exact ((List.forall_mem_append.mp hends).1 r hr).trans hgrow
      · change r.addr + (r.data ++ p.2).length ≤ _
        rw [List.length_append, ← Nat.add_assoc, hend]
        exact hpage.le
    · simp only [hruns, runsWrite_append, runsWrite_singleton, writes_extend, hend, or_assoc]

end Step

/-- The loop over pages in address order, wherever it stands. -/
theorem layout_pages (pages : List Page) (hsorted : pages.Pairwise fun p q => p.1 < q.1) (hok : ∀ p ∈ pages, PageOk p) :
    ∃ limit ≤ flashBase + flashSize, Layout (pages.foldl addPage []) pages limit ∧
      ∀ q, PageOk q → (∀ p ∈ pages, p.1 < q.1) → limit ≤ q.1 := by
  induction pages using List.reverseRecOn with
  | nil =>
    have hnil : Layout [] [] 0 := ⟨nofun, nofun, nofun, nofun, by simp [SectorsWrite, Carried]⟩
    exact ⟨0, Nat.zero_le _, hnil, fun _ _ _ => Nat.zero_le _⟩
  | append_singleton pages p ih =>
    obtain ⟨hsorted', -, hbefore⟩ := List.pairwise_append.mp hsorted
    have hp : PageOk p := hok p (List.mem_append_right _ (List.mem_singleton_self p))
    obtain ⟨limit, -, hlayout, hlimit⟩ := ih hsorted' fun q hq => hok q (List.mem_append_left _ hq)
    have hl : limit ≤ p.1 := hlimit p hp fun q hq => hbefore q hq p (List.mem_singleton_self p)
    refine ⟨p.1 + pageSize, ?_, ?_, ?_⟩
    · have hhi := hp.inFlash.2
      simp only [flashBase, flashSize, pageSize] at hhi ⊢
      omega
    · rw [List.foldl_append]
      exact hlayout.addPage hp hl
    · intro q hq hlt
      have hpq := hlt p (List.mem_append_right _ (List.mem_singleton_self p))
      have ha := hp.aligned
      have ha' := hq.aligned
      simp only [pageSize] at ha ha' ⊢
      omega

/-! ## A parsed image -/

/-- What the sectors of a parsed image are. -/
structure SectorLayout (data : List UInt8) (image : Image) : Prop where
  ascending : image.sectors.Pairwise fun s t => s.base < t.base
  aligned : ∀ s ∈ image.sectors, s.base % sectorSize = 0
  apart : ∀ s ∈ image.sectors, s.runs.Pairwise fun r r' => r.addr + r.data.length < r'.addr
  nonempty : ∀ s ∈ image.sectors, ∀ r ∈ s.runs, r.data ≠ []
  inside : ∀ s ∈ image.sectors, ∀ r ∈ s.runs, s.base ≤ r.addr ∧ r.addr + r.data.length ≤ s.base + sectorSize
  bytes : ∀ addr b, SectorsWrite image.sectors addr b ↔
    ∃ i < data.length / blockSize, ∃ k < pageSize, (payloadAt data i)[k]? = some b ∧ addr = addrAt data i + k
  noOverflow : ∀ pages, pages <+: image.pages → ∀ s ∈ pages.foldl addPage [], ∀ r ∈ s.runs,
    r.addr + r.data.length < 2 ^ 32

theorem sectorLayout {data : List UInt8} {image : Image} (h : Image.parse data = some (.ok image)) :
    SectorLayout data image := by
  obtain ⟨n, hwf, -, hpages, -⟩ := parsePages_ok (Image.parse_ok h)
  have hn : data.length / blockSize = n := (length_iff_blocks.mp ⟨hwf.length, hwf.pos, hwf.le⟩).2.2.2
  obtain ⟨limit, -, hlayout, -⟩ := layout_pages image.pages image.sorted fun _ => image.pageOk
  refine ⟨image.sectors_ascending, hlayout.aligned, hlayout.apart, hlayout.nonempty,
    fun s hs => (image.sectors_ok s hs).runs, ?_, ?_⟩
  · intro addr b
    rw [hn]
    refine (hlayout.bytes addr b).trans ?_
    constructor
    · rintro ⟨p, hp, k, hk, rfl⟩
      obtain ⟨i, hi, rfl⟩ := (hpages p).mp hp
      have hlen : (payloadAt data i).length = pageSize := image.payload _ hp
      exact ⟨i, hi, k, hlen ▸ (List.getElem?_eq_some_iff.mp hk).1, hk, rfl⟩
    · rintro ⟨i, hi, k, -, hk, rfl⟩
      exact ⟨pageAt data i, (hpages _).mpr ⟨i, hi, rfl⟩, k, hk, rfl⟩
  · intro pages hpages s hs r hr
    have hok : ∀ p ∈ pages, PageOk p := fun p hp => image.pageOk (hpages.subset hp)
    obtain ⟨limit, hle, hpart, -⟩ := layout_pages pages (image.sorted.sublist hpages.sublist) hok
    have hend := hpart.ends s hs r hr
    simp only [flashBase, flashSize] at hle
    omega

/-- **Parsing and layout of a UF2 file.** No file makes an index out of range; one parses exactly when it is
well formed; and then its sectors ascend, aligned, each with separate runs inside it, that write every byte
of every block to its address and nothing else. -/
theorem uf2_parse_layout (data : List UInt8) :
    (Image.parse data).isSome ∧
      ((∃ image, Image.parse data = some (.ok image)) ↔ ∃ n, WellFormed data n) ∧
      ∀ image, Image.parse data = some (.ok image) → SectorLayout data image :=
  ⟨Image.parse_isSome data, Image.parse_iff, fun _ => sectorLayout⟩

/-- An image of one page. -/
def onePageFile : List UInt8 :=
  [0x55, 0x46, 0x32, 0x0A, 0x57, 0x51, 0x5D, 0x9E, 0x00, 0x20, 0x00, 0x00, 0x00, 0x00, 0x00, 0x10, 0x00, 0x01, 0x00, 0x00,
    0x00, 0x00, 0x00, 0x00, 0x01, 0x00, 0x00, 0x00, 0x56, 0xFF, 0x8B, 0xE4] ++
    List.replicate 476 0xAB ++ [0x30, 0x6F, 0xB1, 0x0A]

theorem uf2_parse_layout_onePageFile : ∃ image, Image.parse onePageFile = some (.ok image) ∧ SectorLayout onePageFile image := by
  have hpages : parsePages onePageFile = some (.ok [(flashBase, List.replicate 256 0xAB)]) := by decide +kernel
  obtain ⟨-, hiff, hlayout⟩ := uf2_parse_layout onePageFile
  obtain ⟨image, himage⟩ := hiff.mpr (parsePages_iff.mp ⟨_, hpages⟩)
  exact ⟨image, himage, hlayout image himage⟩

end ControlOfc.Firmware
