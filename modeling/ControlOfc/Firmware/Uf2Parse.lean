import ControlOfc.Firmware.Uf2
import Mathlib.Data.List.Nodup
/-! # Parsing a UF2 file (serial/uf2.rs:84-151)

Every read of the data may fail: `none` is an index out of range, which panics. `parsePages_isSome` says
that no file makes one, `parsePages_iff` which files parse and to which pages. What the checks establish
of the pages are the fields of `Image`, so `Image.parse` is the same function with them attached.
-/
namespace ControlOfc.Firmware

/-- `BLOCK_SIZE`. -/
abbrev blockSize : Nat := 512

/-- `MAX_FILE_BYTES`. -/
abbrev maxFileBytes : Nat := 1024 * 1024

abbrev rp2040FamilyId : Nat := 0xE48BFF56
abbrev magicStart0 : Nat := 0x0A324655
abbrev magicStart1 : Nat := 0x9E5D5157
abbrev magicEnd : Nat := 0x0AB16F30

/-- `FLAG_FAMILY_ID_PRESENT`. -/
abbrev flagFamilyIdPresent : Nat := 0x2000

/-- `HEADER_LEN`. -/
abbrev headerLen : Nat := 32

/-- `last_page`: the highest page of the flash. -/
abbrev lastPage : Nat := flashBase + flashSize - pageSize

/-- `Uf2Error` (uf2.rs:42). -/
structure Uf2Error where
  message : String
  deriving DecidableEq, Repr

/-- `{:#010x}`. -/
def hex (n : Nat) : String :=
  let digits := Nat.toDigits 16 n
  "0x" ++ String.ofList (List.replicate (8 - digits.length) '0' ++ digits)

/-- `word` (uf2.rs:80): four bytes, the low one first. -/
def word (block : List UInt8) (at_ : Nat) : Option Nat := do
  let b0 ← block[at_]?
  let b1 ← block[at_ + 1]?
  let b2 ← block[at_ + 2]?
  let b3 ← block[at_ + 3]?
  return b0.toNat + 256 * (b1.toNat + 256 * (b2.toNat + 256 * b3.toNat))

/-- `block[start..start + len]`. -/
def slice (block : List UInt8) (start len : Nat) : Option (List UInt8) :=
  if start + len ≤ block.length then some ((block.drop start).take len) else none

/-- The words a block is judged by. -/
structure BlockWords where
  flags : Nat
  addr : Nat
  size : Nat
  number : Nat
  total : Nat
  family : Nat
  start0 : Nat
  start1 : Nat
  last : Nat
  deriving DecidableEq, Repr

def blockWords (block : List UInt8) : Option BlockWords := do
  let flags ← word block 8
  let addr ← word block 12
  let size ← word block 16
  let number ← word block 20
  let total ← word block 24
  let family ← word block 28
  let start0 ← word block 0
  let start1 ← word block 4
  let last ← word block (blockSize - 4)
  return ⟨flags, addr, size, number, total, family, start0, start1, last⟩

/-- The checks of one block, in order: what is wrong with it (uf2.rs:105-141). -/
def blockFault (index count : Nat) (w : BlockWords) : Option String :=
  let n := toString (index + 1)
  if (w.start0, w.start1, w.last) ≠ (magicStart0, magicStart1, magicEnd) then some ("block " ++ n ++ " is not a UF2 block")
  else if w.flags ≠ flagFamilyIdPresent then
    some ("block " ++ n ++ " has flags " ++ hex w.flags ++ "; an RP2040 flash image has only the family flag")
  else if w.family ≠ rp2040FamilyId then
    some ("block " ++ n ++ " is for chip family " ++ hex w.family ++ ", not the RP2040")
  else if w.size ≠ pageSize then some ("block " ++ n ++ " carries " ++ toString w.size ++ " bytes, not one 256-byte page")
  else if w.number ≠ index ∨ w.total ≠ count then
    some ("block " ++ n ++ " is numbered " ++ toString (w.number + 1) ++ " of " ++ toString w.total ++
      "; the file holds " ++ toString count ++ " blocks in order")
  else if w.addr % pageSize ≠ 0 then some ("block " ++ n ++ "'s address " ++ hex w.addr ++ " is not page-aligned")
  else if w.addr < flashBase ∨ lastPage < w.addr then
    some ("block " ++ n ++ "'s address " ++ hex w.addr ++ " is outside the board's flash")
  else none

/-- A page of the image: its address and its bytes. -/
abbrev Page := Nat × List Nat

/-- `BTreeMap::insert`, on the pages in key order. -/
def insertPage (page : Page) : List Page → List Page
  | [] => [page]
  | p :: ps =>
    if page.1 < p.1 then page :: p :: ps
    else if page.1 = p.1 then page :: ps
    else p :: insertPage page ps

/-- One iteration of the loop over the blocks. -/
def parseBlock (block : List UInt8) (index count : Nat) (pages : List Page) : Option (Except Uf2Error (List Page)) := do
  let w ← blockWords block
  match blockFault index count w with
  | some message => return .error ⟨message⟩
  | none =>
    let payload ← slice block headerLen pageSize
    if pages.any (·.1 = w.addr) then
      return .error ⟨"block " ++ toString (index + 1) ++ " writes " ++ hex w.addr ++ " again"⟩
    else return .ok (insertPage (w.addr, payload.map UInt8.toNat) pages)

/-- The block of an index: `data.as_chunks::<BLOCK_SIZE>().0[index]`. -/
def blockAt (data : List UInt8) (index : Nat) : List UInt8 := (data.drop (blockSize * index)).take blockSize

def parseBlocks (data : List UInt8) (count : Nat) : List Nat → List Page → Option (Except Uf2Error (List Page))
  | [], pages => some (.ok pages)
  | index :: rest, pages =>
    match parseBlock (blockAt data index) index count pages with
    | some (.ok pages) => parseBlocks data count rest pages
    | r => r

/-- `Image::parse` (uf2.rs:86), to the map it builds. -/
def parsePages (data : List UInt8) : Option (Except Uf2Error (List Page)) :=
  if data.length = 0 then some (.error ⟨"the file is empty"⟩)
  else if maxFileBytes < data.length then some (.error ⟨"the file is larger than 1048576 bytes"⟩)
  else if data.length % blockSize ≠ 0 then
    some (.error ⟨"the file is not a whole number of 512-byte UF2 blocks"⟩)
  else
    let count := data.length / blockSize
    match parseBlocks data count (List.range count) [] with
    | some (.ok pages) =>
      if pages.head?.map Prod.fst ≠ some flashBase then
        some (.error ⟨"the image does not start at the start of flash"⟩)
      else some (.ok pages)
    | r => r

/-! ## One block -/

/-- What the checks accept. -/
structure BlockWords.Ok (w : BlockWords) (index count : Nat) : Prop where
  magics : w.start0 = magicStart0 ∧ w.start1 = magicStart1 ∧ w.last = magicEnd
  flags : w.flags = flagFamilyIdPresent
  family : w.family = rp2040FamilyId
  size : w.size = pageSize
  number : w.number = index
  total : w.total = count
  aligned : w.addr % pageSize = 0
  inFlash : flashBase ≤ w.addr ∧ w.addr ≤ lastPage

theorem blockFault_eq_none {w : BlockWords} {index count : Nat} : blockFault index count w = none ↔ w.Ok index count := by
  unfold blockFault
  constructor
  · intro h
    dsimp only at h
    split_ifs at h with hmagic hflags hfamily hsize hnumber haligned hflash
    simp only [ne_eq, not_not, Prod.mk.injEq, not_or, Nat.not_lt] at hmagic hflags hfamily hsize hnumber haligned hflash
    exact ⟨hmagic, hflags, hfamily, hsize, hnumber.1, hnumber.2, haligned, hflash⟩
  · intro h
    obtain ⟨⟨h0, h1, h2⟩, hflags, hfamily, hsize, hnumber, htotal, haligned, hlo, hhi⟩ := h
    simp [h0, h1, h2, hflags, hfamily, hsize, hnumber, htotal, haligned, hlo, hhi]

theorem word_isSome {block : List UInt8} {at_ : Nat} (h : at_ + 4 ≤ block.length) : (word block at_).isSome := by
  unfold word
  rw [List.getElem?_eq_getElem (by omega), List.getElem?_eq_getElem (by omega), List.getElem?_eq_getElem (by omega),
    List.getElem?_eq_getElem (by omega)]
  rfl

theorem blockWords_isSome {block : List UInt8} (h : block.length = blockSize) : (blockWords block).isSome := by
  have hword : ∀ at_, at_ + 4 ≤ blockSize → ∃ v, word block at_ = some v := fun at_ hat =>
    Option.isSome_iff_exists.mp (word_isSome (by omega))
  obtain ⟨flags, hflags⟩ := hword 8 (by decide)
  obtain ⟨addr, haddr⟩ := hword 12 (by decide)
  obtain ⟨size, hsize⟩ := hword 16 (by decide)
  obtain ⟨number, hnumber⟩ := hword 20 (by decide)
  obtain ⟨total, htotal⟩ := hword 24 (by decide)
  obtain ⟨family, hfamily⟩ := hword 28 (by decide)
  obtain ⟨start0, hstart0⟩ := hword 0 (by decide)
  obtain ⟨start1, hstart1⟩ := hword 4 (by decide)
  obtain ⟨last, hlast⟩ := hword (blockSize - 4) (by decide)
  simp [blockWords, hflags, haddr, hsize, hnumber, htotal, hfamily, hstart0, hstart1, hlast]

theorem slice_payload {block : List UInt8} (h : block.length = blockSize) :
    slice block headerLen pageSize = some ((block.drop headerLen).take pageSize) := if_pos (by rw [h]; decide)

theorem length_blockAt {data : List UInt8} {count index : Nat} (hdata : data.length = blockSize * count)
    (hindex : index < count) : (blockAt data index).length = blockSize := by
  have hle : blockSize * (index + 1) ≤ blockSize * count := Nat.mul_le_mul_left _ hindex
  rw [blockAt, List.length_take, List.length_drop, hdata]
  rw [Nat.mul_add] at hle
  omega

/-! ## The pages in key order -/

section Insert

variable {page q : Page} {ps : List Page}

theorem mem_insertPage (hfresh : ∀ p ∈ ps, p.1 ≠ page.1) : q ∈ insertPage page ps ↔ q = page ∨ q ∈ ps := by
  induction ps with
  | nil => simp [insertPage]
  | cons p ps ih =>
    have hne : page.1 ≠ p.1 := (hfresh p List.mem_cons_self).symm
    unfold insertPage
    by_cases hlt : page.1 < p.1
    · rw [if_pos hlt]
      exact List.mem_cons
    · rw [if_neg hlt, if_neg hne, List.mem_cons, List.mem_cons, ih fun p hp => hfresh p (List.mem_cons_of_mem _ hp)]
      exact or_left_comm

theorem sorted_insertPage (hfresh : ∀ p ∈ ps, p.1 ≠ page.1) (h : ps.Pairwise fun p q => p.1 < q.1) :
    (insertPage page ps).Pairwise fun p q => p.1 < q.1 := by
  induction ps with
  | nil => exact List.pairwise_singleton _ _
  | cons p ps ih =>
    obtain ⟨hp, hps⟩ := List.pairwise_cons.mp h
    have hne : page.1 ≠ p.1 := (hfresh p List.mem_cons_self).symm
    have hrest : ∀ p ∈ ps, p.1 ≠ page.1 := fun p hp => hfresh p (List.mem_cons_of_mem _ hp)
    unfold insertPage
    by_cases hlt : page.1 < p.1
    · rw [if_pos hlt]
      refine List.pairwise_cons.mpr ⟨fun q hq => ?_, h⟩
      rcases List.mem_cons.mp hq with rfl | hq
      · exact hlt
      · exact Nat.lt_trans hlt (hp q hq)
    · rw [if_neg hlt, if_neg hne]
      refine List.pairwise_cons.mpr ⟨fun q hq => ?_, ih hrest hps⟩
      rcases (mem_insertPage hrest).mp hq with rfl | hq
      · omega
      · exact hp q hq

end Insert

/-! ## A whole file -/

/-- The address block `index` names. -/
def addrAt (data : List UInt8) (index : Nat) : Nat := ((blockWords (blockAt data index)).map (·.addr)).getD 0

/-- The bytes it carries. -/
def payloadAt (data : List UInt8) (index : Nat) : List Nat :=
  (((blockAt data index).drop headerLen).take pageSize).map UInt8.toNat

def pageAt (data : List UInt8) (index : Nat) : Page := (addrAt data index, payloadAt data index)

/-- Block `index` is one of an image of `count`. -/
def BlockOk (data : List UInt8) (index count : Nat) : Prop :=
  ∃ w, blockWords (blockAt data index) = some w ∧ w.Ok index count

theorem BlockOk.addr {data : List UInt8} {index count : Nat} (h : BlockOk data index count) :
    addrAt data index % pageSize = 0 ∧ flashBase ≤ addrAt data index ∧ addrAt data index ≤ lastPage := by
  obtain ⟨w, hw, hok⟩ := h
  rw [addrAt, hw]
  exact ⟨hok.aligned, hok.inFlash⟩

/-- A file of `n` blocks that makes an image. -/
structure WellFormed (data : List UInt8) (n : Nat) : Prop where
  length : data.length = blockSize * n
  pos : 0 < n
  le : n ≤ 2048
  blocks : ∀ i < n, BlockOk data i n
  distinct : ∀ i < n, ∀ j < n, addrAt data i = addrAt data j → i = j
  start : ∃ i < n, addrAt data i = flashBase

/-- A file of `n` blocks, by its length. -/
theorem length_iff_blocks {len n : Nat} : (len = blockSize * n ∧ 0 < n ∧ n ≤ 2048) ↔
    len ≠ 0 ∧ len ≤ maxFileBytes ∧ len % blockSize = 0 ∧ len / blockSize = n := by
  simp only [blockSize, maxFileBytes]
  omega

section Parse

variable {data : List UInt8} {count : Nat}

theorem parseBlock_ok (hdata : data.length = blockSize * count) {index : Nat} (hindex : index < count) {pages pages' : List Page} :
    parseBlock (blockAt data index) index count pages = some (.ok pages') ↔
      BlockOk data index count ∧ (∀ p ∈ pages, p.1 ≠ addrAt data index) ∧ insertPage (pageAt data index) pages = pages' := by
  have hlen := length_blockAt hdata hindex
  obtain ⟨w, hw⟩ := Option.isSome_iff_exists.mp (blockWords_isSome hlen)
  have haddr : addrAt data index = w.addr := by rw [addrAt, hw]; rfl
  unfold parseBlock
  rw [hw, slice_payload hlen, haddr]
  simp only [Option.bind_eq_bind, Option.bind_some]
  cases hfault : blockFault index count w with
  | some message =>
    constructor
    · intro h
      cases h
    · rintro ⟨⟨w', hw', hok⟩, -⟩
      obtain rfl := Option.some.inj (hw.symm.trans hw')
      rw [blockFault_eq_none.mpr hok] at hfault
      cases hfault
  | none =>
    have hok : BlockOk data index count := ⟨w, hw, blockFault_eq_none.mp hfault⟩
    dsimp only
    by_cases hseen : pages.any (·.1 = w.addr)
    · rw [if_pos hseen]
      constructor
      · intro h
        cases h
      · rintro ⟨-, hfresh, -⟩
        obtain ⟨p, hp, heq⟩ := List.any_eq_true.mp hseen
        exact absurd (of_decide_eq_true heq) (hfresh p hp)
    · rw [if_neg hseen]
      have hfresh : ∀ p ∈ pages, p.1 ≠ w.addr := fun p hp heq =>
        hseen (List.any_eq_true.mpr ⟨p, hp, decide_eq_true heq⟩)
      have hpage : pageAt data index = (w.addr, payloadAt data index) := by rw [pageAt, haddr]
      rw [hpage]
      constructor
      · intro h
        exact ⟨hok, hfresh, Except.ok.inj (Option.some.inj h)⟩
      · rintro ⟨-, -, rfl⟩
        rfl

theorem parseBlock_isSome (hdata : data.length = blockSize * count) {index : Nat} (hindex : index < count) (pages : List Page) :
    (parseBlock (blockAt data index) index count pages).isSome := by
  have hlen := length_blockAt hdata hindex
  obtain ⟨w, hw⟩ := Option.isSome_iff_exists.mp (blockWords_isSome hlen)
  unfold parseBlock
  rw [hw, slice_payload hlen]
  simp only [Option.bind_eq_bind, Option.bind_some]
  cases blockFault index count w with
  | some message => rfl
  | none =>
    dsimp only
    split <;> rfl

theorem parseBlocks_isSome (hdata : data.length = blockSize * count) {indices : List Nat} (hindices : ∀ i ∈ indices, i < count)
    (pages : List Page) : (parseBlocks data count indices pages).isSome := by
  induction indices generalizing pages with
  | nil => rfl
  | cons i indices ih =>
    have hsome := parseBlock_isSome hdata (hindices i List.mem_cons_self) pages
    unfold parseBlocks
    split
    · exact ih (fun j hj => hindices j (List.mem_cons_of_mem _ hj)) _
    · exact hsome

/-- The loop ends well exactly when every block does and no address comes twice. -/
theorem parseBlocks_ok (hdata : data.length = blockSize * count) {indices : List Nat} (hindices : ∀ i ∈ indices, i < count)
    {pages pages' : List Page} :
    parseBlocks data count indices pages = some (.ok pages') ↔
      (∀ i ∈ indices, BlockOk data i count) ∧ (∀ i ∈ indices, ∀ p ∈ pages, p.1 ≠ addrAt data i) ∧
        (indices.map (addrAt data)).Nodup ∧ indices.foldl (fun ps i => insertPage (pageAt data i) ps) pages = pages' := by
  induction indices generalizing pages with
  | nil => simp [parseBlocks]
  | cons i indices ih =>
    have hi : i < count := hindices i List.mem_cons_self
    have hrest : ∀ j ∈ indices, j < count := fun j hj => hindices j (List.mem_cons_of_mem _ hj)
    have hstep : ∀ pages₁, parseBlock (blockAt data i) i count pages = some (.ok pages₁) ↔ _ := fun _ => parseBlock_ok hdata hi
    unfold parseBlocks
    constructor
    · intro h
      cases hblock : parseBlock (blockAt data i) i count pages with
      | none => simp [hblock] at h
      | some r =>
        cases r with
        | error e => simp [hblock] at h
        | ok pages₁ =>
          rw [hblock] at h
          obtain ⟨hok, hfresh, rfl⟩ := (hstep pages₁).mp hblock
          obtain ⟨hoks, hfreshes, hnodup, hfold⟩ := (ih hrest).mp h
          have hmem : ∀ q, q ∈ insertPage (pageAt data i) pages ↔ q = pageAt data i ∨ q ∈ pages := fun q => mem_insertPage hfresh
          refine ⟨List.forall_mem_cons.mpr ⟨hok, hoks⟩, List.forall_mem_cons.mpr ⟨hfresh, ?_⟩, ?_, hfold⟩
          · exact fun j hj p hp => hfreshes j hj p ((hmem p).mpr (.inr hp))
          · refine List.nodup_cons.mpr ⟨fun hdup => ?_, hnodup⟩
            obtain ⟨j, hj, heq⟩ := List.mem_map.mp hdup
            exact hfreshes j hj (pageAt data i) ((hmem _).mpr (.inl rfl)) heq.symm
    · rintro ⟨hoks, hfreshes, hnodup, hfold⟩
      obtain ⟨hok, hoks⟩ := List.forall_mem_cons.mp hoks
      obtain ⟨hfresh, hfreshes⟩ := List.forall_mem_cons.mp hfreshes
      obtain ⟨hnew, hnodup⟩ := List.nodup_cons.mp hnodup
      rw [(hstep _).mpr ⟨hok, hfresh, rfl⟩]
      refine (ih hrest).mpr ⟨hoks, fun j hj p hp heq => ?_, hnodup, hfold⟩
      rcases (mem_insertPage hfresh).mp hp with rfl | hp
      · exact hnew (List.mem_map.mpr ⟨j, hj, heq.symm⟩)
      · exact hfreshes j hj p hp heq

/-- The map the loop builds: every page of the blocks, in address order. -/
theorem foldl_insertPage {indices : List Nat} {pages : List Page} (hsorted : pages.Pairwise fun p q => p.1 < q.1)
    (hfresh : ∀ i ∈ indices, ∀ p ∈ pages, p.1 ≠ addrAt data i) (hnodup : (indices.map (addrAt data)).Nodup) :
    (indices.foldl (fun ps i => insertPage (pageAt data i) ps) pages).Pairwise (fun p q => p.1 < q.1) ∧
      ∀ q, q ∈ indices.foldl (fun ps i => insertPage (pageAt data i) ps) pages ↔
        q ∈ pages ∨ ∃ i ∈ indices, q = pageAt data i := by
  induction indices generalizing pages with
  | nil => exact ⟨hsorted, fun q => by simp⟩
  | cons i indices ih =>
    obtain ⟨hnew, hnodup⟩ := List.nodup_cons.mp hnodup
    obtain ⟨hi, hrest⟩ := List.forall_mem_cons.mp hfresh
    have hlater : ∀ j ∈ indices, ∀ p ∈ insertPage (pageAt data i) pages, p.1 ≠ addrAt data j := by
      intro j hj p hp heq
      rcases (mem_insertPage hi).mp hp with rfl | hp
      · exact hnew (List.mem_map.mpr ⟨j, hj, heq.symm⟩)
      · exact hrest j hj p hp heq
    obtain ⟨hs, hmem⟩ := ih (sorted_insertPage hi hsorted) hlater hnodup
    refine ⟨hs, fun q => ?_⟩
    rw [List.foldl_cons, hmem q, mem_insertPage hi, List.exists_mem_cons_iff]
    exact or_assoc.trans or_left_comm

end Parse

/-- A file that parses is well formed, and its pages are those of its blocks. -/
theorem parsePages_ok {data : List UInt8} {pages : List Page} (h : parsePages data = some (.ok pages)) :
    ∃ n, WellFormed data n ∧ (pages.Pairwise fun p q => p.1 < q.1) ∧ (∀ q, q ∈ pages ↔ ∃ i < n, q = pageAt data i) ∧
      pages.head?.map Prod.fst = some flashBase := by
  unfold parsePages at h
  split at h
  · cases h
  next hempty =>
  split at h
  · cases h
  next hlarge =>
  split at h
  · cases h
  next hwhole =>
  obtain ⟨hdata, hpos, hle⟩ := length_iff_blocks.mpr ⟨hempty, Nat.not_lt.mp hlarge, not_not.mp hwhole, rfl⟩
  have hindices : ∀ i ∈ List.range (data.length / blockSize), i < data.length / blockSize := fun i => List.mem_range.mp
  dsimp only at h
  split at h
  · next pages₁ hloop =>
    split at h
    · cases h
    next hstart =>
    obtain rfl := Except.ok.inj (Option.some.inj h)
    obtain ⟨hoks, hfresh, hnodup, rfl⟩ := (parseBlocks_ok hdata hindices).mp hloop
    obtain ⟨hsorted, hmem⟩ := foldl_insertPage .nil hfresh hnodup
    have hstart' := not_not.mp hstart
    have hpages : ∀ q, q ∈ (List.range (data.length / blockSize)).foldl (fun ps i => insertPage (pageAt data i) ps) [] ↔
        ∃ i < data.length / blockSize, q = pageAt data i := by
      intro q
      rw [hmem q]
      simp only [List.not_mem_nil, false_or, List.mem_range]
    refine ⟨_, ⟨hdata, hpos, hle, fun i hi => hoks i (List.mem_range.mpr hi), ?_, ?_⟩, hsorted, hpages, hstart'⟩
    · intro i hi j hj heq
      exact List.inj_on_of_nodup_map hnodup (List.mem_range.mpr hi) (List.mem_range.mpr hj) heq
    · obtain ⟨p, hp, hfst⟩ := Option.map_eq_some_iff.mp hstart'
      obtain ⟨i, hi, rfl⟩ := (hpages p).mp (List.mem_of_head? hp)
      exact ⟨i, hi, hfst⟩
  · next hne => exact absurd h (hne pages)

/-- **The files that parse** are the well-formed ones. -/
theorem parsePages_iff {data : List UInt8} : (∃ pages, parsePages data = some (.ok pages)) ↔ ∃ n, WellFormed data n := by
  constructor
  · rintro ⟨pages, h⟩
    obtain ⟨n, hwf, -⟩ := parsePages_ok h
    exact ⟨n, hwf⟩
  · rintro ⟨n, hwf⟩
    obtain ⟨hnonempty, hsmall, hwhole, hcount⟩ := length_iff_blocks.mp ⟨hwf.length, hwf.pos, hwf.le⟩
    have hindices : ∀ i ∈ List.range n, i < n := fun i => List.mem_range.mp
    have hnodup : ((List.range n).map (addrAt data)).Nodup :=
      List.nodup_range.map_on fun i hi j hj => hwf.distinct i (hindices i hi) j (hindices j hj)
    have hloop : parseBlocks data n (List.range n) [] = some (.ok _) := (parseBlocks_ok hwf.length hindices).mpr
      ⟨fun i hi => hwf.blocks i (hindices i hi), fun _ _ _ hp => absurd hp List.not_mem_nil, hnodup, rfl⟩
    obtain ⟨hsorted, hmem⟩ := @foldl_insertPage data (List.range n) [] .nil
      (fun _ _ _ hp => absurd hp List.not_mem_nil) hnodup
    generalize (List.range n).foldl (fun ps i => insertPage (pageAt data i) ps) [] = pages at hloop hsorted hmem
    refine ⟨pages, ?_⟩
    -- the lowest page is the one at the start of flash: nothing lies below it
    have hstart : pages.head?.map Prod.fst = some flashBase := by
      obtain ⟨i, hi, hbase⟩ := hwf.start
      have hpage : pageAt data i ∈ pages := (hmem _).mpr (.inr ⟨i, List.mem_range.mpr hi, rfl⟩)
      cases pages with
      | nil => cases hpage
      | cons p ps =>
        have hlow : flashBase ≤ p.1 := by
          rcases (hmem p).mp List.mem_cons_self with hp | ⟨j, hj, rfl⟩
          · cases hp
          · exact (hwf.blocks j (hindices j hj)).addr.2.1
        rcases List.mem_cons.mp hpage with rfl | hlater
        · exact congrArg some hbase
        · have hlt : p.1 < addrAt data i := (List.pairwise_cons.mp hsorted).1 _ hlater
          omega
    unfold parsePages
    rw [if_neg hnonempty, if_neg (Nat.not_lt.mpr hsmall), if_neg (not_not.mpr hwhole)]
    dsimp only
    rw [hcount, hloop]
    exact if_neg (not_not.mpr hstart)

/-- **No file makes an index out of range.** -/
theorem parsePages_isSome (data : List UInt8) : (parsePages data).isSome := by
  unfold parsePages
  split
  · rfl
  split
  · rfl
  split
  · rfl
  next hwhole =>
  have hdata : data.length = blockSize * (data.length / blockSize) :=
    (Nat.mul_div_cancel' (Nat.dvd_of_mod_eq_zero (not_not.mp hwhole))).symm
  have hsome := @parseBlocks_isSome data _ hdata (List.range (data.length / blockSize)) (fun i => List.mem_range.mp) []
  dsimp only
  split
  · split <;> rfl
  · exact hsome

/-- `Image::parse`, with what its checks establish. -/
def Image.parse (data : List UInt8) : Option (Except Uf2Error Image) :=
  match h : parsePages data with
  | none => none
  | some (.error e) => some (.error e)
  | some (.ok pages) =>
    some <| .ok
      { pages
        sorted := (parsePages_ok h).choose_spec.2.1
        aligned := fun p hp => by
          obtain ⟨n, hwf, -, hmem, -⟩ := parsePages_ok h
          obtain ⟨i, hi, rfl⟩ := (hmem p).mp hp
          exact (hwf.blocks i hi).addr.1
        inFlash := fun p hp => by
          obtain ⟨n, hwf, -, hmem, -⟩ := parsePages_ok h
          obtain ⟨i, hi, rfl⟩ := (hmem p).mp hp
          exact (hwf.blocks i hi).addr.2
        payload := fun p hp => by
          obtain ⟨n, hwf, -, hmem, -⟩ := parsePages_ok h
          obtain ⟨i, hi, rfl⟩ := (hmem p).mp hp
          have hlen := length_blockAt hwf.length hi
          simp only [pageAt, payloadAt, List.length_map, List.length_take, List.length_drop, hlen]
          rfl
        start := (parsePages_ok h).choose_spec.2.2.2 }

theorem Image.parse_ok {data : List UInt8} {image : Image} (h : Image.parse data = some (.ok image)) :
    parsePages data = some (.ok image.pages) := by
  unfold Image.parse at h
  split at h
  · cases h
  · cases h
  · next pages heq =>
    obtain rfl := Except.ok.inj (Option.some.inj h)
    exact heq

theorem Image.parse_iff {data : List UInt8} : (∃ image, Image.parse data = some (.ok image)) ↔ ∃ n, WellFormed data n := by
  rw [← parsePages_iff]
  constructor
  · rintro ⟨image, h⟩
    exact ⟨_, Image.parse_ok h⟩
  · rintro ⟨pages, h⟩
    unfold Image.parse
    split
    · next heq => simp [heq] at h
    · next heq => simp [heq] at h
    · exact ⟨_, rfl⟩

theorem Image.parse_isSome (data : List UInt8) : (Image.parse data).isSome := by
  have hsome := parsePages_isSome data
  unfold Image.parse
  split
  · next heq =>
    rw [heq] at hsome
    cases hsome
  · rfl
  · rfl

end ControlOfc.Firmware
