import Mathlib.Data.List.Infix
/-! # Paths as text

A path is compared by its components, so `/a/./b`, `/a//b` and `/a/b/` are one path. `normalize` writes the components
out again, and reads back as the same ones (`components_normalize`).
-/
namespace UnixPath

inductive Component where
  | rootDir
  | curDir
  | parentDir
  | normal (name : List Char)
  deriving DecidableEq, Repr

def Component.text : Component → List Char
  | .rootDir => ['/']
  | .curDir => ['.']
  | .parentDir => ['.', '.']
  | .normal name => name

/-- What stands between two separators; nothing and a single dot are no component. -/
def ofPiece (p : List Char) : Option Component :=
  if p = [] ∨ p = ['.'] then none else if p = ['.', '.'] then some .parentDir else some (.normal p)

/-- A relative path keeps a dot in front. -/
def relative : List (List Char) → List Component
  | ['.'] :: rest => .curDir :: rest.filterMap ofPiece
  | pieces => pieces.filterMap ofPiece

/-- `Path::components`. -/
def components : List Char → List Component
  | '/' :: rest => .rootDir :: (rest.splitOn '/').filterMap ofPiece
  | s => relative (s.splitOn '/')

/-- `PathBuf::push` of a component. -/
def push (buf : List Char) (c : Component) : List Char :=
  if c = .rootDir then ['/']
  else if buf = [] ∨ buf.getLast? = some '/' then buf ++ c.text
  else buf ++ '/' :: c.text

/-- `path.components().collect::<PathBuf>()`. -/
def normalize (s : List Char) : List Char := (components s).foldl push []

/-- `Path::starts_with`. -/
def startsWith (s root : List Char) : Bool := (components root).isPrefixOf (components s)

/-! ## Components of a longer path -/

theorem components_relative {s : List Char} (h : s.head? ≠ some '/') : components s = relative (s.splitOn '/') := by
  unfold components
  split
  · exact absurd rfl h
  · rfl

theorem relative_append {pieces : List (List Char)} (hne : pieces ≠ []) (t : List Char) :
    relative (pieces ++ [t]) = relative pieces ++ [t].filterMap ofPiece := by
  obtain ⟨p, rest, rfl⟩ := List.exists_cons_of_ne_nil hne
  by_cases hp : p = ['.']
  · subst hp
    simp [relative]
  · have hplain (rest : List (List Char)) : relative (p :: rest) = (p :: rest).filterMap ofPiece := by
      unfold relative
      split
      · next heq => exact absurd (List.cons.inj heq).1 hp
      · rfl
    rw [List.cons_append, hplain, hplain, ← List.cons_append, List.filterMap_append]

theorem components_append {buf : List Char} (hne : buf ≠ []) {t : List Char} (ht : '/' ∉ t) :
    components (buf ++ '/' :: t) = components buf ++ [t].filterMap ofPiece := by
  have hsplit (b : List Char) : (b ++ '/' :: t).splitOn '/' = b.splitOn '/' ++ [t] := by
    rw [List.splitOn_append_cons_self, List.splitOn_eq_singleton ht]
  obtain ⟨c, rest, rfl⟩ := List.exists_cons_of_ne_nil hne
  by_cases hc : c = '/'
  · subst hc
    show .rootDir :: ((rest ++ '/' :: t).splitOn '/').filterMap ofPiece = _
    rw [hsplit, List.filterMap_append]
    rfl
  · rw [components_relative (by simpa using hc), components_relative (by simpa using hc), hsplit]
    exact relative_append (List.splitOn_ne_nil _ _) t

/-! ## What a component is -/

/-- A component other than the first. -/
def Plain (c : Component) : Prop := ofPiece c.text = some c ∧ '/' ∉ c.text

theorem plain_of_piece {p : List Char} (hp : '/' ∉ p) {c : Component} (h : ofPiece p = some c) : Plain c := by
  unfold ofPiece at h
  split_ifs at h with h1 h2
  · obtain rfl := Option.some.inj h
    exact ⟨rfl, by decide⟩
  · obtain rfl := Option.some.inj h
    refine ⟨?_, hp⟩
    show ofPiece p = _
    unfold ofPiece
    rw [if_neg h1, if_neg h2]

theorem components_push (buf : List Char) {c : Component} (hc : Plain c) :
    components (push buf c) = components buf ++ [c] := by
  have hroot : c ≠ .rootDir := by
    rintro rfl
    exact absurd hc.2 (by decide)
  have hone : [c.text].filterMap ofPiece = [c] := by simp [hc.1]
  unfold push
  rw [if_neg hroot]
  split_ifs with hbuf
  · rcases hbuf with rfl | hlast
    · have hhead : c.text.head? ≠ some '/' := fun h => hc.2 (List.mem_of_head? h)
      rw [List.nil_append, components_relative hhead, List.splitOn_eq_singleton hc.2]
      have hdot : c.text ≠ ['.'] := by
        intro h
        have := hc.1
        simp [h, ofPiece] at this
      unfold relative
      split
      · next heq => exact absurd (List.cons.inj heq).1 hdot
      · exact hone
    · obtain ⟨b, rfl⟩ := List.getLast?_eq_some_iff.mp hlast
      rw [List.append_assoc, List.singleton_append]
      by_cases hb : b = []
      · subst hb
        show .rootDir :: (c.text.splitOn '/').filterMap ofPiece = [.rootDir] ++ [c]
        rw [List.splitOn_eq_singleton hc.2, hone]
        rfl
      · have hempty : components (b ++ ['/']) = components b := by
          rw [components_append hb (List.not_mem_nil)]
          simp [ofPiece]
        rw [components_append hb hc.2, hempty, hone]
  · rw [components_append (fun h => hbuf (.inl h)) hc.2, hone]

theorem components_foldl_push (cs : List Component) (hcs : ∀ c ∈ cs, Plain c) (buf : List Char) :
    components (cs.foldl push buf) = components buf ++ cs := by
  induction cs generalizing buf with
  | nil => simp
  | cons c cs ih =>
    rw [List.foldl_cons, ih (fun c' hc' => hcs c' (List.mem_cons_of_mem _ hc')),
      components_push buf (hcs c List.mem_cons_self), List.append_assoc]
    rfl

theorem notMem_of_mem_splitOn {s p : List Char} (h : p ∈ s.splitOn '/') : '/' ∉ p := by
  induction s generalizing p with
  | nil =>
    rw [List.splitOn_nil, List.mem_singleton] at h
    simp [h]
  | cons c s ih =>
    rw [List.splitOn_cons_eq_if_modifyHead] at h
    split_ifs at h with hc
    · rcases List.mem_cons.mp h with rfl | h
      · simp
      · exact ih h
    · have hc' : c ≠ '/' := by simpa using hc
      obtain ⟨q, rest, hq⟩ := List.exists_cons_of_ne_nil (List.splitOn_ne_nil '/' s)
      rw [hq] at h ih
      rcases List.mem_cons.mp h with rfl | h
      · have := ih List.mem_cons_self
        simpa [eq_comm, hc'] using this
      · exact ih (List.mem_cons_of_mem _ h)

theorem plain_filterMap {pieces : List (List Char)} (h : ∀ p ∈ pieces, '/' ∉ p) : ∀ c ∈ pieces.filterMap ofPiece, Plain c := by
  intro c hc
  obtain ⟨p, hp, hpc⟩ := List.mem_filterMap.mp hc
  exact plain_of_piece (h p hp) hpc

/-- The text of a path's components has those components. -/
theorem components_normalize (s : List Char) : components (normalize s) = components s := by
  have hfirst {first : Component} {rest : List Component} (hs : components s = first :: rest) (hrest : ∀ c ∈ rest, Plain c)
      (htext : components (push [] first) = [first]) : components (normalize s) = components s := by
    unfold normalize
    rw [hs, List.foldl_cons, components_foldl_push rest hrest, htext]
    rfl
  by_cases hroot : s.head? = some '/'
  · obtain ⟨rest, rfl⟩ := List.head?_eq_some_iff.mp hroot
    exact hfirst rfl (plain_filterMap fun p hp => notMem_of_mem_splitOn hp) (by decide)
  · have hs := components_relative hroot
    have hpieces : ∀ p ∈ s.splitOn '/', '/' ∉ p := fun p hp => notMem_of_mem_splitOn hp
    revert hs hpieces
    generalize s.splitOn '/' = pieces
    intro hs hpieces
    unfold relative at hs
    split at hs
    · exact hfirst hs (plain_filterMap fun p hp => hpieces p (List.mem_cons_of_mem _ hp)) (by decide)
    · unfold normalize
      rw [hs, components_foldl_push _ (plain_filterMap hpieces)]
      rfl

@[simp] theorem normalize_normalize (s : List Char) : normalize (normalize s) = normalize s := by
  unfold normalize
  rw [show components ((components s).foldl push []) = components s from components_normalize s]

theorem normalize_eq_iff {s t : List Char} : normalize s = normalize t ↔ components s = components t := by
  constructor
  · intro h
    rw [← components_normalize s, h, components_normalize]
  · intro h
    unfold normalize
    rw [h]

@[simp] theorem startsWith_normalize (s root : List Char) : startsWith (normalize s) root = startsWith s root := by
  unfold startsWith
  rw [components_normalize]

end UnixPath
