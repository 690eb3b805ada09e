import ReplyScript.Proofs.Disk.Walk

/-! # What a change of the disk leaves alone

A new entry does not get in the way of paths that lead to something, and a new file is found where
it was made. So making directories changes no file, and in a tree without links writing a path
changes the file at the place that the path settles at, and no other. Main statement:
`Tree.Spares.write`.
-/

namespace ReplyScript.Disk

namespace Tree

variable {t : Tree} {place : Path}

/-! ## New entries -/

private theorem walkFrom_set_vacant (vacant : t.entryAt? place = none) (new : Entry) (follow : Bool)
    {jump jump' : Path → Path → Except FileError Target}
    (jumps : ∀ here path p e, jump here path = .ok (.found p e) →
      jump' here path = .ok (.found p e))
    {here path p : Path} {e : Entry}
    (found : t.walkFrom follow jump here path = .ok (.found p e)) :
    (t.set place new).walkFrom follow jump' here path = .ok (.found p e) := by
  induction path generalizing here with
  | nil => exact found
  | cons name rest ih =>
      unfold walkFrom at found ⊢
      split
      · rename_i stays
        rw [if_pos stays] at found
        exact ih found
      · rename_i moves
        rw [if_neg moves] at found
        split
        · rename_i up
          rw [if_pos up] at found
          exact ih found
        · rename_i down
          rw [if_neg down] at found
          split
          · rename_i long
            rw [if_pos long] at found
            cases found
          · rename_i short
            rw [if_neg short] at found
            simp only at found ⊢
            by_cases same : here ++ [name] = place
            · rw [same, vacant] at found
              simp only at found
              split at found <;> cases found
            · rw [entryAt_set_other t new same]
              cases entry : t.entryAt? (here ++ [name]) with
              | none =>
                  rw [entry] at found
                  exact found
              | some there =>
                  rw [entry] at found
                  cases there with
                  | file content => exact found
                  | directory => exact ih found
                  | link target =>
                      simp only at found ⊢
                      split
                      · rename_i last
                        rw [if_pos last] at found
                        exact found
                      · rename_i onward
                        rw [if_neg onward] at found
                        exact jumps _ _ _ _ found

private theorem walkWith_set_vacant (vacant : t.entryAt? place = none) (new : Entry)
    (follow : Bool) (links : Nat) {path p : Path} {e : Entry}
    (found : t.walkWith follow links path = .ok (.found p e)) :
    (t.set place new).walkWith follow links path = .ok (.found p e) := by
  induction links generalizing path p e with
  | zero =>
      unfold walkWith at found ⊢
      refine walkFrom_set_vacant vacant new follow ?_ found
      intro here path p e jumped
      cases jumped
  | succ links ih =>
      unfold walkWith at found ⊢
      exact walkFrom_set_vacant vacant new follow (fun _ _ _ _ jumped => ih jumped) found

theorem walk_set_vacant (vacant : t.entryAt? place = none) (new : Entry) {path p : Path} {e : Entry}
    {follow : Bool} (found : t.walk path follow = .ok (.found p e)) :
    (t.set place new).walk path follow = .ok (.found p e) := by
  unfold walk at found ⊢
  split
  · rename_i nul
    rw [if_pos nul] at found
    cases found
  · rename_i plain
    rw [if_neg plain] at found
    exact walkWith_set_vacant vacant new follow linkLimit found

theorem readText_set_vacant (vacant : t.entryAt? place = none) (new : Entry) {path : Path}
    {text : String} (readable : t.readText path = .ok text) :
    (t.set place new).readText path = .ok text := by
  obtain ⟨p, walked⟩ := readText_eq_ok.mp readable
  exact readText_eq_ok.mpr ⟨p, walk_set_vacant vacant new walked⟩

private theorem walkFrom_set_free (vacant : t.entryAt? place = none) (content : Content)
    (follow : Bool) {jump jump' : Path → Path → Except FileError Target}
    (jumps : ∀ here path, jump here path = .ok (.free place) →
      jump' here path = .ok (.found place (.file content)))
    {here path : Path} (free : t.walkFrom follow jump here path = .ok (.free place)) :
    (t.set place (.file content)).walkFrom follow jump' here path
      = .ok (.found place (.file content)) := by
  induction path generalizing here with
  | nil => cases free
  | cons name rest ih =>
      unfold walkFrom at free ⊢
      split
      · rename_i stays
        rw [if_pos stays] at free
        exact ih free
      · rename_i moves
        rw [if_neg moves] at free
        split
        · rename_i up
          rw [if_pos up] at free
          exact ih free
        · rename_i down
          rw [if_neg down] at free
          split
          · rename_i long
            rw [if_pos long] at free
            cases free
          · rename_i short
            rw [if_neg short] at free
            simp only at free ⊢
            by_cases same : here ++ [name] = place
            · have below : place ≠ [] := by simp [← same]
              rw [same, vacant] at free
              rw [same, entryAt_set_same t _ below]
              simp only at free ⊢
              split at free
              · rename_i last
                rw [if_pos last]
              · cases free
            · rw [entryAt_set_other t _ same]
              cases entry : t.entryAt? (here ++ [name]) with
              | none =>
                  rw [entry] at free
                  simp only at free
                  split at free
                  · cases free
                    exact absurd rfl same
                  · cases free
              | some there =>
                  rw [entry] at free
                  cases there with
                  | file old =>
                      simp only at free
                      split at free <;> cases free
                  | directory => exact ih free
                  | link target =>
                      simp only at free ⊢
                      split at free
                      · cases free
                      · rename_i onward
                        rw [if_neg onward]
                        exact jumps _ _ free

private theorem walkWith_set_free (vacant : t.entryAt? place = none) (content : Content)
    (follow : Bool) (links : Nat) {path : Path}
    (free : t.walkWith follow links path = .ok (.free place)) :
    (t.set place (.file content)).walkWith follow links path
      = .ok (.found place (.file content)) := by
  induction links generalizing path with
  | zero =>
      unfold walkWith at free ⊢
      refine walkFrom_set_free vacant content follow ?_ free
      intro here path jumped
      cases jumped
  | succ links ih =>
      unfold walkWith at free ⊢
      exact walkFrom_set_free vacant content follow (fun _ _ jumped => ih jumped) free

/-- What is written to a new file is read back. -/
theorem readText_set_free {path : Path} (free : t.walk path = .ok (.free place)) (new : String) :
    (t.set place (.file (.text new))).readText path = .ok new := by
  have vacant := vacant_of_walk free
  refine readText_eq_ok.mpr ⟨place, ?_⟩
  unfold walk at free ⊢
  split
  · rename_i nul
    rw [if_pos nul] at free
    cases free
  · rename_i plain
    rw [if_neg plain] at free
    exact walkWith_set_free vacant (.text new) true linkLimit free

/-! ## Making directories -/

/-- A property of trees that a directory in an empty place does not affect. -/
def AllowsDirectories (P : Tree → Prop) : Prop :=
  ∀ t place, P t → t.entryAt? place = none → P (t.set place .directory)

variable {P : Tree → Prop}

private theorem makeDirectory_keeps (allows : AllowsDirectories P) (holds : P t) {path : Path}
    {made : Tree} (making : t.makeDirectory path = .ok made) : P made := by
  unfold makeDirectory at making
  split at making
  · cases making
  · rename_i free
    cases making
    exact allows t _ holds (vacant_of_walk free)
  · cases making

private theorem makeDirectoriesBack_keeps (allows : AllowsDirectories P) (holds : P t)
    (path : Path) : P (t.makeDirectoriesBack path).1 := by
  induction path generalizing t with
  | nil => exact holds
  | cons name above ih =>
      unfold makeDirectoriesBack
      simp only
      split
      · rename_i made making
        exact makeDirectory_keeps allows holds making
      · have kept := ih holds
        split
        · rename_i stuck failed
          rw [failed] at kept
          exact kept
        · rename_i reached done
          rw [done] at kept
          split
          · rename_i made making
            exact makeDirectory_keeps allows kept making
          · split <;> exact kept
      · split <;> exact holds

theorem makeDirectories_keeps (allows : AllowsDirectories P) (holds : P t) (path : Path) :
    P (t.makeDirectories path).1 :=
  makeDirectoriesBack_keeps allows holds path.reverse

/-- Making directories leaves every text where it was. -/
theorem readText_makeDirectories {path : Path} {text : String}
    (readable : t.readText path = .ok text) (directory : Path) :
    (t.makeDirectories directory).1.readText path = .ok text := by
  refine makeDirectories_keeps (P := fun t => t.readText path = .ok text) ?_ readable directory
  intro t place readable vacant
  exact readText_set_vacant vacant .directory readable

/-! ## Trees without links -/

theorem linkFree_empty : empty.LinkFree := by
  intro place target
  unfold entryAt?
  split <;> simp [empty]

theorem LinkFree.set (linkFree : t.LinkFree) (place : Path) {new : Entry}
    (noLink : ∀ target, new ≠ .link target) : (t.set place new).LinkFree := by
  intro p target found
  by_cases same : p = place
  · subst same
    by_cases top : p = []
    · simp [entryAt?, top] at found
    · rw [entryAt_set_same t new top] at found
      exact noLink target (Option.some.inj found)
  · rw [entryAt_set_other t new same] at found
    exact linkFree p target found

theorem LinkFree.makeDirectories (linkFree : t.LinkFree) (directory : Path) :
    (t.makeDirectories directory).1.LinkFree := by
  refine makeDirectories_keeps (P := LinkFree) ?_ linkFree directory
  intro t place linkFree vacant
  exact linkFree.set place (by simp)

section

variable {path : Path} {content : Content} {written : Tree}

theorem LinkFree.write (linkFree : t.LinkFree) (wrote : t.write path content = .ok written) :
    written.LinkFree := by
  unfold Tree.write at wrote
  split at wrote
  · cases wrote
    exact linkFree.set _ (by simp)
  · cases wrote
  · cases wrote
    exact linkFree.set _ (by simp)
  · cases wrote

/-- What is written is read back. -/
theorem readText_write {path : Path} {new : String}
    (wrote : t.write path (.text new) = .ok written) : written.readText path = .ok new := by
  unfold write at wrote
  split at wrote
  · rename_i walked
    cases wrote
    exact readText_set_walked walked new
  · cases wrote
  · rename_i free
    cases wrote
    exact readText_set_free free new
  · cases wrote

/-- Writing a file leaves the texts of all others, when no links are in the way. -/
theorem readText_write_other (linkFree : t.LinkFree) (wrote : t.write path content = .ok written)
    {other : Path} (apart : other.settle ≠ path.settle) {text : String}
    (readable : t.readText other = .ok text) : written.readText other = .ok text := by
  unfold Tree.write at wrote
  split at wrote
  · rename_i place old walked
    cases wrote
    obtain ⟨p, found⟩ := readText_eq_ok.mp readable
    have elsewhere : p ≠ place := by
      rw [found_of_walk linkFree found, found_of_walk linkFree walked]
      exact apart
    refine readText_eq_ok.mpr ⟨p, ?_⟩
    rw [walk_set_file (entry_of_walk walked), found]
    simp [Except.map, Target.refill, elsewhere]
  · cases wrote
  · rename_i place free
    cases wrote
    exact readText_set_vacant (vacant_of_walk free) _ readable
  · cases wrote

end

end Tree

/-! ## Files by their places -/

namespace Tree

/-- What the file at a place holds, if there is one. -/
def file? (t : Tree) (place : Path) : Option Content :=
  match t.entryAt? place with
  | some (.file content) => some content
  | _ => none

/-- From an earlier tree without links to this one, only files among the paths in `written` were
made or changed, and no links. -/
def Spares (t earlier : Tree) (written : Path → Prop) : Prop :=
  earlier.LinkFree → t.LinkFree ∧
    ∀ place, (∀ path, written path → path.settle ≠ place) → t.file? place = earlier.file? place

variable {t u v : Tree} {written : Path → Prop}

theorem file?_set_other {place other : Path} (entry : Entry) (apart : other ≠ place) :
    (t.set place entry).file? other = t.file? other := by
  unfold file?
  rw [entryAt_set_other t entry apart]

namespace Spares

theorem refl (t : Tree) (written : Path → Prop) : t.Spares t written :=
  fun linkFree => ⟨linkFree, fun _ _ => rfl⟩

theorem trans (late : v.Spares u written) (early : u.Spares t written) : v.Spares t written := by
  intro linkFree
  obtain ⟨between, first⟩ := early linkFree
  obtain ⟨after, second⟩ := late between
  exact ⟨after, fun place apart => (second place apart).trans (first place apart)⟩

theorem mono {more : Path → Prop} (spares : u.Spares t written)
    (covered : ∀ path, written path → more path) : u.Spares t more := by
  intro linkFree
  obtain ⟨after, same⟩ := spares linkFree
  exact ⟨after, fun place apart => same place fun path inside => apart path (covered path inside)⟩

theorem makeDirectories (t : Tree) (written : Path → Prop) (directory : Path) :
    (t.makeDirectories directory).1.Spares t written := by
  intro linkFree
  refine ⟨linkFree.makeDirectories directory, fun place _ => ?_⟩
  -- A directory is only made where there is nothing, and nothing is no file either.
  refine makeDirectories_keeps (P := fun made => made.file? place = t.file? place) ?_ rfl directory
  intro made new same vacant
  rw [← same]
  by_cases here : place = new
  · subst here
    unfold file?
    rw [vacant]
    by_cases top : place = []
    · simp [entryAt?, top] at vacant
    · rw [entryAt_set_same made _ top]
  · exact file?_set_other _ here

theorem write {path : Path} {content : Content} (inside : written path)
    (wrote : t.write path content = .ok u) : u.Spares t written := by
  intro linkFree
  refine ⟨linkFree.write wrote, fun place apart => ?_⟩
  have elsewhere : place ≠ path.settle := Ne.symm (apart path inside)
  unfold Tree.write at wrote
  split at wrote
  · rename_i p old walked
    cases wrote
    rw [← found_of_walk linkFree walked] at elsewhere
    exact file?_set_other _ elsewhere
  · cases wrote
  · rename_i p free
    cases wrote
    have at_ : p = path.settle := place_of_walk linkFree free
    rw [← at_] at elsewhere
    exact file?_set_other _ elsewhere
  · cases wrote

end Spares

end Tree

/-! ## Names that settle as they are -/

/-- A name that leads one step down. -/
def Plain (name : String) : Prop :=
  name ≠ "" ∧ name ≠ "." ∧ name ≠ ".."

private theorem foldl_enter_plain (here : Path) {names : Path}
    (plain : ∀ name ∈ names, Plain name) : names.foldl Path.enter here = here ++ names := by
  induction names generalizing here with
  | nil => simp
  | cons name rest ih =>
      obtain ⟨nonempty, noDot, noDots⟩ := plain name List.mem_cons_self
      rw [List.foldl_cons, Path.enter, if_neg (by simp [nonempty, noDot]), if_neg noDots,
        ih (here ++ [name]) fun other member => plain other (List.mem_cons_of_mem _ member)]
      simp

theorem settle_append_plain (base : Path) {names : Path} (plain : ∀ name ∈ names, Plain name) :
    Path.settle (base ++ names) = base.settle ++ names := by
  unfold Path.settle
  rw [List.foldl_append, foldl_enter_plain _ plain]

end ReplyScript.Disk
