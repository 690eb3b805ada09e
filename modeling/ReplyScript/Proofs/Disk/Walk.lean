import ReplyScript.Disk.Tree

/-! # Walks and files

What a path leads to, and what changing the content of one file does to it: every path leads where
it led before, and reads that file's new content if it leads there.
-/

namespace ReplyScript.Disk

def Target.place : Target → Path
  | .found place _ | .free place => place

/-- A target after the file at a place got a new content. -/
def Target.refill (place : Path) (new : Content) : Target → Target
  | .found p (.file old) => .found p (.file (if p = place then new else old))
  | target => target

namespace Tree

theorem entryAt_set_other (t : Tree) {place q : Path} (entry : Entry) (apart : q ≠ place) :
    (t.set place entry).entryAt? q = t.entryAt? q := by
  simp only [entryAt?, set, Keyed.lookup_put, if_neg apart]

theorem entryAt_set_same (t : Tree) {place : Path} (entry : Entry) (below : place ≠ []) :
    (t.set place entry).entryAt? place = some entry := by
  simp only [entryAt?, set, Keyed.lookup_put, if_neg below, if_true]

/-! ## What a walk finds -/

/-- A found target is an entry of the tree, or a directory; at a free one there is nothing. -/
def Holds (t : Tree) : Except FileError Target → Prop
  | .ok (.found place entry) => t.entryAt? place = some entry ∨ entry = .directory
  | .ok (.free place) => t.entryAt? place = none
  | .error _ => True

private theorem holds_walkFrom (t : Tree) (follow : Bool)
    {jump : Path → Path → Except FileError Target} (jumps : ∀ here path, t.Holds (jump here path))
    (here path : Path) : t.Holds (t.walkFrom follow jump here path) := by
  induction path generalizing here with
  | nil => exact .inr rfl
  | cons name rest ih =>
      unfold walkFrom
      split
      · exact ih here
      · split
        · exact ih _
        · split
          · trivial
          · simp only
            split
            · rename_i vacant
              split
              · exact vacant
              · trivial
            · rename_i content entry
              split
              · exact .inl entry
              · trivial
            · exact ih _
            · rename_i target entry
              split
              · exact .inl entry
              · exact jumps _ _

private theorem holds_walkWith (t : Tree) (follow : Bool) (links : Nat) (path : Path) :
    t.Holds (t.walkWith follow links path) := by
  induction links generalizing path with
  | zero =>
      apply holds_walkFrom
      intro _ _
      trivial
  | succ links ih => exact t.holds_walkFrom follow (fun _ path => ih path) [] path

theorem holds_walk (t : Tree) (path : Path) (follow : Bool) : t.Holds (t.walk path follow) := by
  unfold walk
  split
  · trivial
  · exact t.holds_walkWith follow linkLimit path

theorem entry_of_walk {t : Tree} {path place : Path} {follow : Bool} {content : Content}
    (found : t.walk path follow = .ok (.found place (.file content))) :
    t.entryAt? place = some (.file content) := by
  have held := t.holds_walk path follow
  rw [found] at held
  exact held.resolve_right (by simp)

theorem vacant_of_walk {t : Tree} {path place : Path} {follow : Bool}
    (free : t.walk path follow = .ok (.free place)) : t.entryAt? place = none := by
  have held := t.holds_walk path follow
  rw [free] at held
  exact held

theorem ne_nil_of_entry {t : Tree} {place : Path} {content : Content}
    (entry : t.entryAt? place = some (.file content)) : place ≠ [] := by
  rintro rfl
  simp [entryAt?] at entry

/-! ## New contents -/

section

variable {t : Tree} {place : Path} {old : Content}

private theorem walkFrom_set_file (entry : t.entryAt? place = some (.file old)) (new : Content)
    (follow : Bool) {jump jump' : Path → Path → Except FileError Target}
    (jumps : ∀ here path, jump' here path = (jump here path).map (Target.refill place new))
    (here path : Path) :
    (t.set place (.file new)).walkFrom follow jump' here path
      = (t.walkFrom follow jump here path).map (Target.refill place new) := by
  induction path generalizing here with
  | nil => rfl
  | cons name rest ih =>
      unfold walkFrom
      split
      · exact ih here
      · split
        · exact ih _
        · split
          · rfl
          · simp only
            by_cases same : here ++ [name] = place
            · rw [same, entryAt_set_same t _ (ne_nil_of_entry entry), entry]
              simp only
              split
              · simp [Except.map, Target.refill]
              · rfl
            · rw [entryAt_set_other t _ same]
              cases t.entryAt? (here ++ [name]) with
              | none =>
                  simp only
                  split <;> rfl
              | some found =>
                  cases found with
                  | file content =>
                      simp only
                      split
                      · simp [Except.map, Target.refill, same]
                      · rfl
                  | directory => exact ih _
                  | link target =>
                      simp only
                      split
                      · rfl
                      · exact jumps _ _

private theorem walkWith_set_file (entry : t.entryAt? place = some (.file old)) (new : Content)
    (follow : Bool) (links : Nat) (path : Path) :
    (t.set place (.file new)).walkWith follow links path
      = (t.walkWith follow links path).map (Target.refill place new) := by
  induction links generalizing path with
  | zero =>
      unfold walkWith
      apply walkFrom_set_file entry
      intro _ _
      rfl
  | succ links ih => exact walkFrom_set_file entry new follow (fun _ path => ih path) [] path

/-- A new content of one file leaves every path leading where it led before. -/
theorem walk_set_file (entry : t.entryAt? place = some (.file old)) (new : Content) (path : Path)
    (follow : Bool) :
    (t.set place (.file new)).walk path follow
      = (t.walk path follow).map (Target.refill place new) := by
  unfold walk
  split
  · rfl
  · exact walkWith_set_file entry new follow linkLimit path

end

/-! ## Reading and writing -/

section

variable {t : Tree} {path place : Path} {old : Content}

theorem readText_eq_ok {text : String} :
    t.readText path = .ok text ↔ ∃ place, t.walk path = .ok (.found place (.file (.text text))) := by
  unfold readText read
  constructor
  · intro readable
    cases walked : t.walk path with
    | error e => simp [walked] at readable
    | ok target =>
        cases target with
        | free place => simp [walked] at readable
        | found place entry =>
            cases entry with
            | link target => simp [walked] at readable
            | directory => simp [walked] at readable
            | file content =>
                cases content with
                | binary bytes => simp [walked] at readable
                | text s =>
                    simp only [walked, Except.ok.injEq] at readable
                    exact ⟨place, by rw [readable]⟩
  · rintro ⟨place, walked⟩
    rw [walked]

/-- Where there is no file, there is a place for it or no directory to hold it. -/
theorem walk_of_missing (missing : t.readText path = .error .notFound) :
    (∃ place, t.walk path = .ok (.free place)) ∨ t.walk path = .error .notFound := by
  unfold readText read at missing
  cases walked : t.walk path with
  | error e =>
      simp only [walked, Except.error.injEq] at missing
      rw [missing]
      exact .inr rfl
  | ok target =>
      cases target with
      | free place => exact .inl ⟨place, rfl⟩
      | found place entry =>
          cases entry with
          | link target => simp [walked] at missing
          | directory => simp [walked] at missing
          | file content => cases content <;> simp [walked] at missing

theorem write_walked (walked : t.walk path = .ok (.found place (.file old))) (new : Content) :
    t.write path new = .ok (t.set place (.file new)) := by
  unfold write
  rw [walked]

/-- What has been written is read back. -/
theorem readText_set_walked (walked : t.walk path = .ok (.found place (.file old)))
    (new : String) : (t.set place (.file (.text new))).readText path = .ok new := by
  rw [readText_eq_ok]
  refine ⟨place, ?_⟩
  rw [walk_set_file (entry_of_walk walked), walked]
  simp [Except.map, Target.refill]

end

/-! ## Trees without links -/

def LinkFree (t : Tree) : Prop :=
  ∀ place target, t.entryAt? place ≠ some (.link target)

end Tree

/-- Where a name leads from a place where no links are in the way. -/
def Path.enter (here : Path) (name : String) : Path :=
  if name = "." ∨ name = "" then here
  else if name = ".." then here.dropLast
  else here ++ [name]

/-- Where a path leads where no links are in the way. -/
def Path.settle (path : Path) : Path :=
  path.foldl Path.enter []

namespace Tree

private theorem place_of_walkFrom {t : Tree} (linkFree : t.LinkFree) (follow : Bool)
    {jump : Path → Path → Except FileError Target} {here path : Path} {target : Target}
    (walked : t.walkFrom follow jump here path = .ok target) :
    target.place = path.foldl Path.enter here := by
  induction path generalizing here with
  | nil =>
      cases walked
      rfl
  | cons name rest ih =>
      rw [List.foldl_cons, Path.enter]
      unfold walkFrom at walked
      split at walked
      · rename_i stays
        rw [if_pos stays]
        exact ih walked
      · rename_i moves
        rw [if_neg moves]
        split at walked
        · rename_i up
          rw [if_pos up]
          exact ih walked
        · rename_i down
          rw [if_neg down]
          split at walked
          · cases walked
          · simp only at walked
            split at walked
            · split at walked
              · rename_i last
                cases walked
                rw [last]
                rfl
              · cases walked
            · split at walked
              · rename_i last
                cases walked
                rw [last]
                rfl
              · cases walked
            · exact ih walked
            · rename_i target found
              exact absurd found (linkFree _ _)

theorem place_of_walk {t : Tree} (linkFree : t.LinkFree) {path : Path} {follow : Bool}
    {target : Target} (walked : t.walk path follow = .ok target) :
    target.place = path.settle := by
  unfold walk at walked
  split at walked
  · cases walked
  · unfold linkLimit walkWith at walked
    exact place_of_walkFrom linkFree follow walked

theorem found_of_walk {t : Tree} (linkFree : t.LinkFree) {path place : Path} {follow : Bool}
    {entry : Entry} (walked : t.walk path follow = .ok (.found place entry)) :
    place = path.settle :=
  place_of_walk linkFree walked

end Tree

end ReplyScript.Disk
