import Mathlib.Data.List.Basic
import Mathlib.Order.Basic
import Mathlib.Algebra.Group.Nat.Defs
import Mathlib.Algebra.GroupWithZero.Nat
/-! # A UF2 firmware image (serial/uf2.rs)

An image is its pages by address; what the parser has checked of them are the fields of `Image`.
`Image.sectors` cuts it into what the daemon erases and programs: each sector it touches, in address
order, with its runs of consecutive pages.

* `Image.sectors_ok` — every run lies in its sector, every sector in the flash, the sectors ascend.
* `Image.sectors_cover` — the runs hold every byte of every page.
-/
namespace ControlOfc.Firmware

/-- `PAGE_SIZE`: one block's payload, one flash page. -/
abbrev pageSize : Nat := 256

/-- `SECTOR_SIZE`: the flash erase unit. -/
abbrev sectorSize : Nat := 4096

/-- `FLASH_BASE`. -/
abbrev flashBase : Nat := 0x10000000

/-- `FLASH_SIZE`. -/
abbrev flashSize : Nat := 4 * 1024 * 1024

def IsFlash (x : Nat) : Prop := flashBase ≤ x ∧ x < flashBase + flashSize

instance (x : Nat) : Decidable (IsFlash x) := inferInstanceAs (Decidable (_ ∧ _))

/-- `Run` (uf2.rs:60): one WRITE, and one READ to check it. -/
structure Run where
  addr : Nat
  data : List Nat
  deriving DecidableEq

/-- `Sector` (uf2.rs:67). -/
structure Sector where
  base : Nat
  runs : List Run
  deriving DecidableEq

/-- `Sector::bytes`. -/
def Sector.bytes (s : Sector) : Nat := (s.runs.map fun r => r.data.length).sum

/-- `Image` (uf2.rs:81), with what `Image::parse` refuses anything else for. The pages are those of the
`BTreeMap`, in key order. -/
structure Image where
  pages : List (Nat × List Nat)
  sorted : pages.Pairwise fun p q => p.1 < q.1
  aligned : ∀ p ∈ pages, p.1 % pageSize = 0
  inFlash : ∀ p ∈ pages, flashBase ≤ p.1 ∧ p.1 ≤ flashBase + flashSize - pageSize
  payload : ∀ p ∈ pages, p.2.length = pageSize
  start : pages.head?.map Prod.fst = some flashBase

/-- `Image::byte_count`. -/
def Image.byteCount (image : Image) : Nat := image.pages.length * pageSize

def sectorBase (addr : Nat) : Nat := addr - addr % sectorSize

/-- The run a page continues, or one of its own (uf2.rs:175-182). -/
def Sector.addPage (s : Sector) (addr : Nat) (page : List Nat) : Sector :=
  match s.runs.getLast? with
  | some run =>
    if run.addr + run.data.length = addr then
      { s with runs := s.runs.dropLast ++ [{ run with data := run.data ++ page }] }
    else { s with runs := s.runs ++ [⟨addr, page⟩] }
  | none => { s with runs := [⟨addr, page⟩] }

/-- One page of `Image::sectors`'s loop (uf2.rs:166-183). -/
def addPage (sectors : List Sector) (p : Nat × List Nat) : List Sector :=
  let base := sectorBase p.1
  match sectors.getLast? with
  | some s =>
    if s.base = base then sectors.dropLast ++ [s.addPage p.1 p.2]
    else sectors ++ [Sector.addPage ⟨base, []⟩ p.1 p.2]
  | none => [Sector.addPage ⟨base, []⟩ p.1 p.2]

/-- `Image::sectors` (uf2.rs:165). -/
def Image.sectors (image : Image) : List Sector := image.pages.foldl addPage []

/-! ## Where the runs lie -/

/-- A whole sector of the flash, with every run inside. -/
structure Sector.Ok (s : Sector) : Prop where
  inFlash : flashBase ≤ s.base ∧ s.base + sectorSize ≤ flashBase + flashSize
  runs : ∀ r ∈ s.runs, s.base ≤ r.addr ∧ r.addr + r.data.length ≤ s.base + sectorSize

structure SectorsOk (sectors : List Sector) (limit : Nat) : Prop where
  ok : ∀ s ∈ sectors, s.Ok
  ascending : sectors.Pairwise fun s t => s.base < t.base
  le : ∀ s ∈ sectors, s.base ≤ limit

/-- What a page of an image is known for. -/
structure PageOk (p : Nat × List Nat) : Prop where
  aligned : p.1 % pageSize = 0
  inFlash : flashBase ≤ p.1 ∧ p.1 ≤ flashBase + flashSize - pageSize
  payload : p.2.length = pageSize

theorem Image.pageOk (image : Image) {p : Nat × List Nat} (hp : p ∈ image.pages) : PageOk p :=
  ⟨image.aligned p hp, image.inFlash p hp, image.payload p hp⟩

theorem PageOk.in_sector {p : Nat × List Nat} (h : PageOk p) :
    sectorBase p.1 ≤ p.1 ∧ p.1 + pageSize ≤ sectorBase p.1 + sectorSize := by
  have ha := h.aligned
  simp only [sectorBase, pageSize, sectorSize] at *
  omega

theorem PageOk.sector_inFlash {p : Nat × List Nat} (h : PageOk p) :
    flashBase ≤ sectorBase p.1 ∧ sectorBase p.1 + sectorSize ≤ flashBase + flashSize := by
  obtain ⟨hlo, hhi⟩ := h.inFlash
  simp only [sectorBase, pageSize, sectorSize, flashBase, flashSize] at *
  omega

theorem sectorBase_mono {a b : Nat} (h : a ≤ b) : sectorBase a ≤ sectorBase b := by
  simp only [sectorBase, sectorSize]
  omega

theorem Sector.addPage_base (s : Sector) (addr : Nat) (page : List Nat) : (s.addPage addr page).base = s.base := by
  unfold Sector.addPage
  split
  · split <;> rfl
  · rfl

/-- Each run of a sector with a page more: an old one, the page, or the last one continued by it. -/
theorem Sector.mem_addPage {s : Sector} {addr : Nat} {page : List Nat} {r : Run} (h : r ∈ (s.addPage addr page).runs) :
    r ∈ s.runs ∨ r = ⟨addr, page⟩ ∨
      ∃ run ∈ s.runs, run.addr + run.data.length = addr ∧ r = { run with data := run.data ++ page } := by
  unfold Sector.addPage at h
  split at h
  · next run hl =>
    have hmem := List.mem_of_getLast? hl
    split at h
    · next ha =>
      rcases List.mem_append.mp h with h | h
      · exact .inl (List.dropLast_subset _ h)
      · exact .inr (.inr ⟨run, hmem, ha, List.mem_singleton.mp h⟩)
    · rcases List.mem_append.mp h with h | h
      · exact .inl h
      · exact .inr (.inl (List.mem_singleton.mp h))
  · exact .inr (.inl (List.mem_singleton.mp h))

theorem Sector.Ok.addPage {s : Sector} {p : Nat × List Nat} (hruns : s.base = sectorBase p.1)
    (h : s.Ok) (hp : PageOk p) : (s.addPage p.1 p.2).Ok := by
  obtain ⟨hlo, hhi⟩ := hp.in_sector
  refine ⟨by rw [s.addPage_base]; exact h.inFlash, fun r hr => ?_⟩
  rw [s.addPage_base, hruns]
  rcases Sector.mem_addPage hr with hr | rfl | ⟨run, hrun, ha, rfl⟩
  · exact hruns ▸ h.runs r hr
  · exact ⟨hlo, by rw [hp.payload]; exact hhi⟩
  · have hb := h.runs run hrun
    rw [hruns] at hb
    refine ⟨hb.1, ?_⟩
    show run.addr + (run.data ++ p.2).length ≤ _
    rw [List.length_append, hp.payload, ← Nat.add_assoc, ha]
    exact hhi

/-- The last sector of a list, and those before it. -/
theorem eq_dropLast_append {α : Type*} {l : List α} {x : α} (h : l.getLast? = some x) : l = l.dropLast ++ [x] :=
  (List.dropLast_append_getLast? x h).symm

theorem SectorsOk.addPage {sectors : List Sector} {limit : Nat} {p : Nat × List Nat} (h : SectorsOk sectors limit)
    (hp : PageOk p) (hl : limit ≤ sectorBase p.1) : SectorsOk (addPage sectors p) (sectorBase p.1) := by
  have hnew : (Sector.addPage ⟨sectorBase p.1, []⟩ p.1 p.2).Ok :=
    Sector.Ok.addPage rfl ⟨hp.sector_inFlash, nofun⟩ hp
  have hnewb : (Sector.addPage ⟨sectorBase p.1, []⟩ p.1 p.2).base = sectorBase p.1 := Sector.addPage_base ..
  have hle : ∀ s ∈ sectors, s.base ≤ sectorBase p.1 := fun s hs => Nat.le_trans (h.le s hs) hl
  unfold Firmware.addPage
  cases hlast : sectors.getLast? with
  | none =>
    dsimp only
    refine ⟨?_, List.pairwise_singleton .., ?_⟩ <;> intro s hs <;> obtain rfl := List.mem_singleton.mp hs
    · exact hnew
    · exact Nat.le_of_eq hnewb
  | some t =>
    have heq := eq_dropLast_append hlast
    have hmem := List.mem_of_getLast? hlast
    have hasc := h.ascending
    rw [heq, List.pairwise_append] at hasc
    dsimp only
    split
    · next hb =>
      have hok : (t.addPage p.1 p.2).Ok := Sector.Ok.addPage hb (h.ok t hmem) hp
      refine ⟨fun s hs => ?_, ?_, fun s hs => ?_⟩
      · rcases List.mem_append.mp hs with hs | hs
        · exact h.ok s (List.dropLast_subset _ hs)
        · rwa [List.mem_singleton.mp hs]
      · refine List.pairwise_append.mpr ⟨hasc.1, List.pairwise_singleton .., fun a ha b hb' => ?_⟩
        rw [List.mem_singleton.mp hb', Sector.addPage_base]
        exact hasc.2.2 a ha t (List.mem_singleton.mpr rfl)
      · rcases List.mem_append.mp hs with hs | hs
        · exact hle s (List.dropLast_subset _ hs)
        · rw [List.mem_singleton.mp hs, Sector.addPage_base]
          exact Nat.le_of_eq hb
    · next hb =>
      refine ⟨fun s hs => ?_, ?_, fun s hs => ?_⟩
      · rcases List.mem_append.mp hs with hs | hs
        · exact h.ok s hs
        · rwa [List.mem_singleton.mp hs]
      · refine List.pairwise_append.mpr ⟨h.ascending, List.pairwise_singleton .., fun a ha b hb' => ?_⟩
        have hlt : t.base < sectorBase p.1 := Nat.lt_of_le_of_ne (hle t hmem) hb
        rw [List.mem_singleton.mp hb', hnewb]
        rw [heq] at ha
        rcases List.mem_append.mp ha with ha | ha
        · exact Nat.lt_trans (hasc.2.2 a ha t (List.mem_singleton.mpr rfl)) hlt
        · rwa [List.mem_singleton.mp ha]
      · rcases List.mem_append.mp hs with hs | hs
        · exact hle s hs
        · rw [List.mem_singleton.mp hs]
          exact Nat.le_of_eq hnewb

/-! ## What the runs hold -/

/-- The bytes of a page stand in one of the runs. -/
def Covers (sectors : List Sector) (p : Nat × List Nat) : Prop :=
  ∃ s ∈ sectors, ∃ r ∈ s.runs, ∃ k, r.addr + k = p.1 ∧ ∀ i b, p.2[i]? = some b → r.data[k + i]? = some b

/-- A run of a sector is one of it with a page more, or the beginning of one. -/
theorem Sector.run_addPage {s : Sector} {r : Run} (h : r ∈ s.runs) (addr : Nat) (page : List Nat) :
    ∃ r' ∈ (s.addPage addr page).runs, r'.addr = r.addr ∧ r.data <+: r'.data := by
  unfold Sector.addPage
  cases hl : s.runs.getLast? with
  | none =>
    rw [List.getLast?_eq_none_iff.mp hl] at h
    cases h
  | some run =>
    dsimp only
    split
    · rw [eq_dropLast_append hl] at h
      rcases List.mem_append.mp h with h | h
      · exact ⟨r, List.mem_append_left _ h, rfl, List.prefix_rfl⟩
      · obtain rfl := List.mem_singleton.mp h
        exact ⟨_, List.mem_append_right _ (List.mem_singleton.mpr rfl), rfl, List.prefix_append ..⟩
    · exact ⟨r, List.mem_append_left _ h, rfl, List.prefix_rfl⟩

theorem Sector.covers_addPage (s : Sector) (addr : Nat) (page : List Nat) :
    ∃ r ∈ (s.addPage addr page).runs, ∃ k, r.addr + k = addr ∧ ∀ i b, page[i]? = some b → r.data[k + i]? = some b := by
  unfold Sector.addPage
  have hown : ∃ k, addr + k = addr ∧ ∀ (i : Nat) b, page[i]? = some b → page[k + i]? = some b :=
    ⟨0, rfl, fun i b h => by rwa [Nat.zero_add]⟩
  split
  · next run hl =>
    split
    · next ha =>
      refine ⟨_, List.mem_append_right _ (List.mem_singleton.mpr rfl), run.data.length, ha, fun i b hi => ?_⟩
      show (run.data ++ page)[run.data.length + i]? = some b
      rwa [List.getElem?_append_right (Nat.le_add_right ..), Nat.add_sub_cancel_left]
    · exact ⟨_, List.mem_append_right _ (List.mem_singleton.mpr rfl), hown⟩
  · exact ⟨_, List.mem_singleton.mpr rfl, hown⟩

theorem covers_addPage_self (sectors : List Sector) (p : Nat × List Nat) : Covers (addPage sectors p) p := by
  unfold addPage
  dsimp only
  split
  · next t hl =>
    split
    · exact ⟨_, List.mem_append_right _ (List.mem_singleton.mpr rfl), t.covers_addPage p.1 p.2⟩
    · exact ⟨_, List.mem_append_right _ (List.mem_singleton.mpr rfl), Sector.covers_addPage _ p.1 p.2⟩
  · exact ⟨_, List.mem_singleton.mpr rfl, Sector.covers_addPage _ p.1 p.2⟩

theorem Covers.addPage {sectors : List Sector} {p : Nat × List Nat} (h : Covers sectors p) (q : Nat × List Nat) :
    Covers (addPage sectors q) p := by
  obtain ⟨s, hs, r, hr, k, hk, hb⟩ := h
  unfold Firmware.addPage
  cases hl : sectors.getLast? with
  | none =>
    rw [List.getLast?_eq_none_iff.mp hl] at hs
    cases hs
  | some t =>
    dsimp only
    split
    · rw [eq_dropLast_append hl] at hs
      rcases List.mem_append.mp hs with hs | hs
      · exact ⟨s, List.mem_append_left _ hs, r, hr, k, hk, hb⟩
      · obtain rfl := List.mem_singleton.mp hs
        obtain ⟨r', hr', ha, tail, hd⟩ := Sector.run_addPage hr q.1 q.2
        refine ⟨_, List.mem_append_right _ (List.mem_singleton.mpr rfl), r', hr', k, ha ▸ hk, fun i b hi => ?_⟩
        have hlt := (List.getElem?_eq_some_iff.mp (hb i b hi)).1
        rw [← hd, List.getElem?_append_left hlt]
        exact hb i b hi
    · exact ⟨s, List.mem_append_left _ hs, r, hr, k, hk, hb⟩

/-! ## The image's sectors -/

theorem foldl_addPage (pages : List (Nat × List Nat)) :
    ∀ {sectors : List Sector} {limit : Nat}, SectorsOk sectors limit → (∀ p ∈ pages, PageOk p) →
      (∀ p ∈ pages, limit ≤ sectorBase p.1) → pages.Pairwise (fun p q => p.1 < q.1) →
      (∃ limit', SectorsOk (pages.foldl addPage sectors) limit') ∧
      (∀ p, Covers sectors p → Covers (pages.foldl addPage sectors) p) ∧
      ∀ p ∈ pages, Covers (pages.foldl addPage sectors) p := by
  induction pages with
  | nil => exact fun h _ _ _ => ⟨⟨_, h⟩, fun _ hp => hp, nofun⟩
  | cons q pages ih =>
    intro sectors limit h hok hlim hsort
    obtain ⟨hq, hsort⟩ := List.pairwise_cons.mp hsort
    have hstep := h.addPage (hok q List.mem_cons_self) (hlim q List.mem_cons_self)
    obtain ⟨hs, hc, hm⟩ := ih hstep (fun p hp => hok p (List.mem_cons_of_mem _ hp))
      (fun p hp => sectorBase_mono (Nat.le_of_lt (hq p hp))) hsort
    refine ⟨hs, fun p hp => hc p (hp.addPage q), fun p hp => ?_⟩
    rcases List.mem_cons.mp hp with rfl | hp
    · exact hc _ (covers_addPage_self sectors _)
    · exact hm p hp

namespace Image

variable (image : Image)

theorem foldl_sectors :
    (∃ limit, SectorsOk image.sectors limit) ∧ ∀ p ∈ image.pages, Covers image.sectors p := by
  obtain ⟨hs, -, hm⟩ := @foldl_addPage image.pages [] 0 ⟨nofun, .nil, nofun⟩
    (fun _ hp => image.pageOk hp) (fun _ _ => Nat.zero_le _) image.sorted
  exact ⟨hs, hm⟩

theorem sectors_ok : ∀ s ∈ image.sectors, s.Ok := by
  obtain ⟨⟨limit, h⟩, -⟩ := image.foldl_sectors
  exact h.ok

theorem sectors_ascending : image.sectors.Pairwise fun s t => s.base < t.base := by
  obtain ⟨⟨limit, h⟩, -⟩ := image.foldl_sectors
  exact h.ascending

theorem sectors_cover : ∀ p ∈ image.pages, Covers image.sectors p := image.foldl_sectors.2

end Image

end ControlOfc.Firmware
