import ReplyScript.Workspace.Basic

/-! # Spellings of a path

A path is a row of components, and `Workspace.resolve` follows them from the root. Spellings that
differ only in what is no name of a file lead to the same file. Main statements: `resolve_eq_follow`
and `Respells.resolve_eq_ok`.
-/

namespace ReplyScript.Workspace

open Disk (Path)

/-! ## Components -/

inductive Component where
  /-- The slash that a path starts with. -/
  | root
  | here
  | up
  | name (s : String)
  deriving Repr, DecidableEq, BEq, Inhabited

/-- The component that a part of a path is. -/
def Component.ofPart? (part : String) : Option Component :=
  if part = "" ∨ part = "." then none
  else if part = ".." then some .up
  else some (.name part)

def Component.name? : Component → Option String
  | name s => some s
  | _ => none

/-- The components of a path. Slashes on end count once, and `.` counts at the start only. -/
def components (path : String) : List Component :=
  (if path.toList.head? = some '/' then [.root]
    else if (parts path).head? = some "." then [.here]
    else []) ++ (parts path).filterMap Component.ofPart?

/-- A path that starts at the top. -/
def Absolute (path : String) : Prop :=
  Component.root ∈ components path

/-- A path that leads upwards somewhere. -/
def Climbs (path : String) : Prop :=
  Component.up ∈ components path

def names (path : String) : List String :=
  (components path).filterMap Component.name?

/-- Follow components from a place, for a path that is spelled like this. -/
def follow (path : String) (place : Path) : List Component → Except Fault Path
  | [] => .ok place
  | .name s :: rest => follow path (place ++ [s]) rest
  | .here :: rest => follow path place rest
  | .root :: _ | .up :: _ => .error (.invalidInput ("path '" ++ path ++ "' leaves the workspace"))

theorem follow_inside (path : String) {cs : List Component} (noRoot : .root ∉ cs)
    (noUp : .up ∉ cs) (place : Path) :
    follow path place cs = .ok (place ++ cs.filterMap Component.name?) := by
  induction cs generalizing place with
  | nil => simp [follow]
  | cons c cs ih =>
      rw [List.mem_cons, not_or] at noRoot noUp
      have later := ih noRoot.2 noUp.2
      cases c with
      | root => exact absurd rfl noRoot.1
      | up => exact absurd rfl noUp.1
      | here => exact later place
      | name s =>
          rw [follow, later, List.append_assoc]
          rfl

theorem follow_outside (path : String) {cs : List Component} (leaves : .root ∈ cs ∨ .up ∈ cs)
    (place : Path) : follow path place cs
      = .error (.invalidInput ("path '" ++ path ++ "' leaves the workspace")) := by
  induction cs generalizing place with
  | nil => simp at leaves
  | cons c cs ih =>
      cases c with
      | root | up => rfl
      | here => exact ih (by simpa using leaves) place
      | name s => exact ih (by simpa using leaves) (place ++ [s])

theorem root_notMem_filterMap (ps : List String) :
    Component.root ∉ ps.filterMap Component.ofPart? := by
  intro member
  obtain ⟨part, -, found⟩ := List.mem_filterMap.mp member
  unfold Component.ofPart? at found
  split at found
  · cases found
  · split at found <;> cases found

theorem up_mem_filterMap (ps : List String) :
    Component.up ∈ ps.filterMap Component.ofPart? ↔ ".." ∈ ps := by
  rw [List.mem_filterMap]
  constructor
  · rintro ⟨part, member, found⟩
    unfold Component.ofPart? at found
    split at found
    · cases found
    · split at found
      · rename_i same
        rwa [← same]
      · cases found
  · exact fun member => ⟨"..", member, rfl⟩

theorem filterMap_ofPart? {ps : List String} (inside : ".." ∉ ps) :
    (ps.filterMap Component.ofPart?).filterMap Component.name?
      = ps.filter fun part => part ≠ "" ∧ part ≠ "." := by
  induction ps with
  | nil => rfl
  | cons part ps ih =>
      rw [List.mem_cons, not_or] at inside
      have other : part ≠ ".." := Ne.symm inside.1
      have rest := ih inside.2
      by_cases nameless : part = "" ∨ part = "."
      · have gone : Component.ofPart? part = none := if_pos nameless
        have dropped : ¬ (part ≠ "" ∧ part ≠ ".") := fun both => nameless.elim both.1 both.2
        rw [List.filterMap_cons_none gone, rest, List.filter_cons_of_neg (by simpa using dropped)]
      · have named : Component.ofPart? part = some (.name part) := by
          rw [Component.ofPart?, if_neg nameless, if_neg other]
        have visible : Component.name? (.name part) = some part := rfl
        rw [List.filterMap_cons_some named, List.filterMap_cons_some visible, rest,
          List.filter_cons_of_pos (by simpa [not_or] using nameless)]

theorem absolute_iff (path : String) : Absolute path ↔ path.toList.head? = some '/' := by
  unfold Absolute components
  rw [List.mem_append, or_iff_left (root_notMem_filterMap _)]
  split
  · simp_all
  · split <;> simp_all

theorem climbs_iff (path : String) : Climbs path ↔ ".." ∈ parts path := by
  unfold Climbs components
  rw [List.mem_append, up_mem_filterMap]
  refine or_iff_right ?_
  split
  · simp
  · split <;> simp

theorem names_eq {path : String} (inside : ¬ Climbs path) :
    names path = (parts path).filter fun part => part ≠ "" ∧ part ≠ "." := by
  rw [climbs_iff] at inside
  unfold names components
  rw [List.filterMap_append, filterMap_ofPart? inside]
  split
  · rfl
  · split <;> rfl

/-- Resolving a path is following its components from the root. -/
theorem resolve_eq_follow (w : Workspace) (path : String) :
    w.resolve path = follow path w.root (components path) := by
  unfold resolve
  split
  · rename_i leaves
    rw [← absolute_iff, ← climbs_iff] at leaves
    exact (follow_outside path leaves w.root).symm
  · rename_i stays
    rw [← absolute_iff, ← climbs_iff, not_or] at stays
    rw [follow_inside path stays.1 stays.2, ← names_eq stays.2]
    rfl

theorem resolve_leaves_iff (w : Workspace) (path : String) :
    (∃ text, w.resolve path = .error (.invalidInput text)) ↔ Absolute path ∨ Climbs path := by
  rw [resolve_eq_follow]
  constructor
  · rintro ⟨text, failed⟩
    apply Classical.byContradiction
    intro stays
    rw [not_or] at stays
    rw [follow_inside path stays.1 stays.2] at failed
    cases failed
  · exact fun leaves => ⟨_, follow_outside path leaves w.root⟩

theorem resolve_inside (w : Workspace) {path : String} (stays : ¬ (Absolute path ∨ Climbs path)) :
    w.resolve path = .ok (w.root ++ names path) := by
  rw [not_or] at stays
  rw [resolve_eq_follow, follow_inside path stays.1 stays.2]
  rfl

/-! ## Spellings -/

/-- Two spellings that differ only in slashes that repeat one another or end the path, and in `.`. -/
inductive Respells : String → String → Prop where
  | slash (a b : String) : Respells (a ++ "//" ++ b) (a ++ "/" ++ b)
  | here (a b : String) : Respells (a ++ "/./" ++ b) (a ++ "/" ++ b)
  | first {b : String} (relative : b.toList.head? ≠ some '/') : Respells ("./" ++ b) b
  | last {a : String} (nonempty : a ≠ "") : Respells (a ++ "/") a
  | lastHere {a : String} (nonempty : a ≠ "") : Respells (a ++ "/.") a
  | refl (a : String) : Respells a a
  | symm {a b : String} (h : Respells a b) : Respells b a
  | trans {a b c : String} (first : Respells a b) (second : Respells b c) : Respells a c

theorem parts_append (a b : String) : parts (a ++ "/" ++ b) = parts a ++ parts b := by
  have chars : (a ++ "/" ++ b).toList = a.toList ++ '/' :: b.toList := by
    rw [String.toList_append, String.toList_append, List.append_assoc]
    rfl
  have cut := List.splitOnP_append_cons (p := (· == '/')) a.toList b.toList (beq_self_eq_true '/')
  unfold parts
  rw [chars, ← List.map_append]
  exact congrArg (List.map String.ofList) cut

/-- Paths that start at the top, climb and name files alike. -/
structure Alike (a b : String) : Prop where
  absolute : a.toList.head? = some '/' ↔ b.toList.head? = some '/'
  climbs : ".." ∈ parts a ↔ ".." ∈ parts b
  named : ((parts a).filter fun part => part ≠ "" ∧ part ≠ ".")
    = (parts b).filter fun part => part ≠ "" ∧ part ≠ "."

theorem Alike.of_nameless {a b part : String} (nameless : part = "" ∨ part = ".")
    (ps qs : List String) (long : parts a = ps ++ part :: qs) (short : parts b = ps ++ qs)
    (absolute : a.toList.head? = some '/' ↔ b.toList.head? = some '/') : Alike a b where
  absolute := absolute
  climbs := by
    have other : ".." ≠ part := by rcases nameless with rfl | rfl <;> decide
    simp [long, short, other]
  named := by
    rw [long, short, List.filter_append, List.filter_append]
    congr 1
    exact List.filter_cons_of_neg (by rcases nameless with rfl | rfl <;> decide)

theorem head?_append {a : String} (nonempty : a ≠ "") (b : String) :
    (a ++ b).toList.head? = a.toList.head? := by
  have started : a.toList ≠ [] := by simpa using nonempty
  rw [String.toList_append, List.head?_append, Option.or_of_isSome]
  exact List.isSome_head?.mpr started

theorem Respells.alike {a b : String} (respells : Respells a b) : Alike a b := by
  induction respells with
  | slash a b =>
      have shape : a ++ "//" ++ b = a ++ "/" ++ ("" ++ "/" ++ b) := by
        simp [← String.toList_inj]
      refine .of_nameless (.inl rfl) (parts a) (parts b) ?_ (parts_append a b) ?_
      · rw [shape, parts_append, parts_append]
        rfl
      · cases chars : a.toList <;> simp [chars]
  | here a b =>
      have shape : a ++ "/./" ++ b = a ++ "/" ++ ("." ++ "/" ++ b) := by
        simp [← String.toList_inj]
      refine .of_nameless (.inr rfl) (parts a) (parts b) ?_ (parts_append a b) ?_
      · rw [shape, parts_append, parts_append]
        rfl
      · cases chars : a.toList <;> simp [chars]
  | @first b relative =>
      refine .of_nameless (.inr rfl) [] (parts b) (parts_append "." b) rfl ?_
      simp [relative]
  | @last a nonempty =>
      refine .of_nameless (.inl rfl) (parts a) [] ?_ (List.append_nil _).symm ?_
      · have cut := parts_append a ""
        rwa [String.append_empty] at cut
      · rw [head?_append nonempty]
  | @lastHere a nonempty =>
      have shape : a ++ "/." = a ++ "/" ++ "." := by
        simp [← String.toList_inj]
      refine .of_nameless (.inr rfl) (parts a) [] ?_ (List.append_nil _).symm ?_
      · rw [shape, parts_append]
        rfl
      · rw [head?_append nonempty]
  | refl a => exact ⟨.rfl, .rfl, rfl⟩
  | symm _ ih => exact ⟨ih.absolute.symm, ih.climbs.symm, ih.named.symm⟩
  | trans _ _ ih ih' =>
      exact ⟨ih.absolute.trans ih'.absolute, ih.climbs.trans ih'.climbs, ih.named.trans ih'.named⟩

/-- Spellings of one path lead to the same file. -/
theorem Respells.resolve_eq_ok {a b : String} (respells : Respells a b) (w : Workspace)
    (file : Path) : w.resolve a = .ok file ↔ w.resolve b = .ok file := by
  obtain ⟨absolute, climbs, named⟩ := respells.alike
  unfold resolve
  simp only [absolute, climbs, named]
  split
  · exact ⟨nofun, nofun⟩
  · exact .rfl

/-- How paths are resolved: never out of the root, and alike for all spellings of a path. -/
structure ResolvesInside (w : Workspace) : Prop where
  leaves : ∀ path, (∃ text, w.resolve path = .error (.invalidInput text))
    ↔ Absolute path ∨ Climbs path
  inside : ∀ path, ¬ (Absolute path ∨ Climbs path) → w.resolve path = .ok (w.root ++ names path)
  spellings : ∀ a b, Respells a b → ∀ file, w.resolve a = .ok file ↔ w.resolve b = .ok file

theorem resolvesInside (w : Workspace) : w.ResolvesInside where
  leaves := resolve_leaves_iff w
  inside := fun _ stays => resolve_inside w stays
  spellings := fun _ _ respells => respells.resolve_eq_ok w

example (w : Workspace) : w.resolve "./src//a/./b.rs/" = w.resolve "src/a/b.rs" := rfl

end ReplyScript.Workspace
