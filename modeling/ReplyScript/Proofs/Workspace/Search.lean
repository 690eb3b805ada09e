import Mathlib.Data.List.Forall2
import ReplyScript.Proofs.Edit.Bytes
import ReplyScript.Workspace.Search

/-! # Where hits are

A hit has the coordinates of its match in a buffer of the file, whatever characters stand before the
match, and the hits of a file are in order. A search that ends before the limit has found every
match. Main statements: `hitsInBytes?_coordinates`, for any matches that are in order and between
characters, and `hitsInBytes?_findAll`, that the matches of a pattern are such and that a search by
bytes finds what a search by characters does.
-/

namespace ReplyScript

open Edit (Position Range Buffer)
open Text (byteCount)

/-- Matches in a line as they come one after the other: between characters, none starting before the
one before it stops, and no two at one place. -/
structure Successive (line : String) (ms : List ByteMatch) : Prop where
  between : ∀ m ∈ ms, ∃ i j, i ≤ j ∧ j ≤ line.toList.length
    ∧ m.start = byteCount (line.toList.take i) ∧ m.stop = byteCount (line.toList.take j)
  apart : ms.Pairwise fun m n => m.stop ≤ n.start ∧ m.start < n.start

/-- A match in a file: the line with its number, and its bytes. -/
structure LineMatch where
  line : String
  number : Nat
  found : ByteMatch

/-- The matches in the lines of a text. -/
def lineMatches (find : String → List ByteMatch) (text : String) : List LineMatch :=
  (Text.lines text).zipIdx.flatMap fun (line, i) => (find line).map (⟨line, i, ·⟩)

/-- The range of a hit in a buffer. -/
def Hit.range (h : Hit) : Range :=
  ⟨⟨h.line, h.column⟩, ⟨h.line, h.column + h.length⟩⟩

/-- A hit comes before another one of the same file. -/
def Hit.Before (h k : Hit) : Prop :=
  h.line < k.line ∨ (h.line = k.line ∧ h.column < k.column)

/-- A hit shows a match in a file of that name and text: its range has the bytes of the match, and
for its range a buffer of the text gives the matched text. -/
structure Hit.Shows (name text : String) (o : LineMatch) (h : Hit) : Prop where
  file : h.file = name
  line : h.line = o.number
  start : (Buffer.ofText text).byteOffset h.range.start = .ok o.found.start
  stop : (Buffer.ofText text).byteOffset h.range.stop = .ok o.found.stop
  matched : ∃ matched, Text.slice? o.line o.found.start o.found.stop = some matched
    ∧ matched.length = h.length
    ∧ (Buffer.ofText text).textIn h.range = .ok matched
    ∧ (Buffer.ofText text).textInBytes h.range = some (.ok matched)

/-! ## One match -/

section

variable {find : String → List ByteMatch} {name text : String} {o : LineMatch}

/-- The hit of a match in a file of that name. -/
def LineMatch.hit? (name : String) (o : LineMatch) : Option Hit :=
  Workspace.hitOf? name o.line o.number o.found

theorem of_mem_lineMatches (member : o ∈ lineMatches find text) :
    (Text.lines text)[o.number]? = some o.line ∧ o.found ∈ find o.line := by
  obtain ⟨⟨line, i⟩, inside, member⟩ := List.mem_flatMap.mp member
  obtain ⟨m, found, rfl⟩ := List.mem_map.mp member
  exact ⟨List.mem_zipIdx_iff_getElem?.mp inside, found⟩

theorem hitOf?_take (name line : String) (number : Nat) {i j : Nat} (le : i ≤ j)
    (within : j ≤ line.toList.length) :
    Workspace.hitOf? name line number
      ⟨byteCount (line.toList.take i), byteCount (line.toList.take j)⟩
      = some ⟨name, number, i, j - i⟩ := by
  have before : (String.ofList (line.toList.take i)).length = i := by
    rw [String.length_ofList, List.length_take_of_le (Nat.le_trans le within)]
  have found : (String.ofList ((line.toList.take j).drop i)).length = j - i := by
    rw [String.length_ofList, List.length_drop, List.length_take_of_le within]
  unfold Workspace.hitOf?
  rw [Text.slice?_to, Text.slice?_take line le]
  simp only [Option.bind_eq_bind, Option.bind_some, before, found]
  rfl

theorem textIn_line {b : Buffer} {line : String} {n i j : Nat} (found : b.lines[n]? = some line)
    (le : i ≤ j) :
    b.textIn ⟨⟨n, i⟩, ⟨n, j⟩⟩ = .ok (String.ofList ((line.toList.take j).drop i)) := by
  have ordered : (⟨⟨n, i⟩, ⟨n, j⟩⟩ : Range).normalized = ⟨⟨n, i⟩, ⟨n, j⟩⟩ := by
    simp [Edit.Range.normalized, Position.before, Nat.not_lt.mpr le]
  unfold Buffer.textIn
  simp only [ordered, Buffer.lineAt, found, if_true]
  rfl

/-- A match between characters has a hit, and the hit shows it. -/
theorem exists_hit (successive : ∀ line, Successive line (find line)) (name : String)
    (member : o ∈ lineMatches find text) : ∃ h, o.hit? name = some h ∧ h.Shows name text o := by
  obtain ⟨place, found⟩ := of_mem_lineMatches member
  obtain ⟨i, j, le, within, start, stop⟩ := (successive o.line).between _ found
  have columns : i + (j - i) = j := by omega
  have hit := hitOf?_take name o.line o.number le within
  rw [← start, ← stop] at hit
  have slice := Text.slice?_take o.line le
  rw [← start, ← stop] at slice
  have shown : (Buffer.ofText text).textIn (Hit.range ⟨name, o.number, i, j - i⟩)
      = .ok (String.ofList ((o.line.toList.take j).drop i)) := by
    rw [Hit.range, columns]
    exact textIn_line place le
  refine ⟨_, hit, rfl, rfl, ?_, ?_, _, slice, ?_, shown, ?_⟩
  · rw [start]
    exact Buffer.byteOffset_found place
  · rw [stop, Hit.range, columns]
    exact Buffer.byteOffset_found place
  · rw [String.length_ofList, List.length_drop, List.length_take_of_le within]
  · rw [Buffer.textInBytes_eq, shown]

end

/-! ## All matches of a file -/

/-- A match comes before another one of the same text. -/
def LineMatch.Before (o p : LineMatch) : Prop :=
  o.number < p.number ∨ (o.number = p.number ∧ o.found.start < p.found.start)

theorem pairwise_lineMatches {find : String → List ByteMatch}
    (successive : ∀ line, Successive line (find line)) (text : String) :
    (lineMatches find text).Pairwise LineMatch.Before := by
  refine List.pairwise_flatMap.mpr ⟨?_, ?_⟩
  · rintro ⟨line, i⟩ -
    refine List.pairwise_map.mpr ((successive line).apart.imp ?_)
    intro m n apart
    exact .inr ⟨rfl, apart.2⟩
  · have numbers : ((Text.lines text).zipIdx.map Prod.snd).Pairwise (· < ·) := by
      rw [List.zipIdx_map_snd]
      exact List.pairwise_lt_range'
    refine (List.pairwise_map.mp numbers).imp ?_
    rintro ⟨line, i⟩ ⟨other, j⟩ earlier o here p there
    obtain ⟨m, -, rfl⟩ := List.mem_map.mp here
    obtain ⟨n, -, rfl⟩ := List.mem_map.mp there
    exact .inl earlier

/-- Hits are in the order of the matches that they show: columns count what bytes count. -/
theorem Hit.Shows.before {name text : String} {o p : LineMatch} {h k : Hit}
    (first : h.Shows name text o) (second : k.Shows name text p)
    (place : (Text.lines text)[o.number]? = some o.line) (before : o.Before p) : h.Before k := by
  rcases before with earlier | ⟨same, starts⟩
  · left
    rw [first.line, second.line]
    exact earlier
  · right
    have line : h.line = k.line := by rw [first.line, second.line, same]
    have there : (Buffer.ofText text).lines[h.line]? = some o.line := by
      rw [first.line]
      exact place
    have start := first.start
    rw [Hit.range, Buffer.byteOffset_found there, Except.ok.injEq] at start
    have later := second.start
    rw [Hit.range, ← line, Buffer.byteOffset_found there, Except.ok.injEq] at later
    refine ⟨line, Nat.lt_of_not_le fun back => ?_⟩
    have bytes := Text.byteCount_take_le o.line.toList back
    rw [← start, ← later] at starts
    exact absurd starts (Nat.not_lt.mpr bytes)

theorem pairwise_of_shows {name text : String} {os : List LineMatch} {hits : List Hit}
    (shows : List.Forall₂ (Hit.Shows name text) os hits) (ordered : os.Pairwise LineMatch.Before)
    (places : ∀ o ∈ os, (Text.lines text)[o.number]? = some o.line) : hits.Pairwise Hit.Before := by
  induction shows with
  | nil => exact .nil
  | @cons o h os hits first rest ih =>
      obtain ⟨before, ordered⟩ := List.pairwise_cons.mp ordered
      obtain ⟨place, places⟩ := List.forall_mem_cons.mp places
      refine List.pairwise_cons.mpr ⟨?_, ih ordered places⟩
      intro k member
      obtain ⟨i, inside, rfl⟩ := List.mem_iff_getElem.mp member
      have within : i < os.length := rest.length_eq ▸ inside
      exact first.before (rest.get within inside) place (before _ (List.getElem_mem within))

/-- The hits in a file of a search without a limit. -/
def hitsOf (find : String → List ByteMatch) (file : String × String) : List Hit :=
  (lineMatches find file.2).flatMap fun o => (o.hit? file.1).toList

theorem shows_hitsOf {find : String → List ByteMatch}
    (successive : ∀ line, Successive line (find line)) (file : String × String) :
    List.Forall₂ (Hit.Shows file.1 file.2) (lineMatches find file.2) (hitsOf find file) := by
  have each (os : List LineMatch) (all : ∀ o ∈ os, o ∈ lineMatches find file.2) :
      List.Forall₂ (Hit.Shows file.1 file.2) os (os.flatMap fun o => (o.hit? file.1).toList) := by
    induction os with
    | nil => exact .nil
    | cons o os ih =>
        obtain ⟨here, later⟩ := List.forall_mem_cons.mp all
        obtain ⟨h, hit, shows⟩ := exists_hit successive file.1 here
        rw [List.flatMap_cons, hit]
        exact .cons shows (ih later)
  exact each _ fun _ => id

/-! ## The search -/

namespace Workspace

/-- What it comes to when hits are added one by one. -/
def upToLimit (hits : List Hit) : Except SearchStop (List Hit) :=
  if hits.length < hitLimit then .ok hits else .error (.enough (hits.take hitLimit))

theorem foldlM_upToLimit {α : Type} {add : List Hit → α → Except SearchStop (List Hit)}
    {more : α → List Hit} {xs : List α} (adds : ∀ x ∈ xs, ∀ hits : List Hit,
      hits.length < hitLimit → add hits x = upToLimit (hits ++ more x))
    {hits : List Hit} (below : hits.length < hitLimit) :
    xs.foldlM add hits = upToLimit (hits ++ xs.flatMap more) := by
  induction xs generalizing hits with
  | nil =>
      rw [List.flatMap_nil, List.append_nil, upToLimit, if_pos below]
      rfl
  | cons x xs ih =>
      obtain ⟨first, rest⟩ := List.forall_mem_cons.mp adds
      rw [List.foldlM_cons, first hits below, List.flatMap_cons, ← List.append_assoc]
      by_cases short : (hits ++ more x).length < hitLimit
      · rw [upToLimit, if_pos short]
        exact ih rest short
      · have long : hitLimit ≤ (hits ++ more x).length := Nat.le_of_not_lt short
        have still : ¬ (hits ++ more x ++ xs.flatMap more).length < hitLimit := by
          rw [List.length_append]
          omega
        rw [upToLimit, if_neg short, upToLimit, if_neg still,
          List.take_append_of_le_length long]
        rfl

theorem addMatch_upToLimit {name line : String} {number : Nat} {m : ByteMatch} {h : Hit}
    (hit : hitOf? name line number m = some h) {hits : List Hit}
    (below : hits.length < hitLimit) :
    addMatch name line number hits m = upToLimit (hits ++ [h]) := by
  have one : (hits ++ [h]).length = hits.length + 1 := List.length_append
  unfold addMatch upToLimit
  rw [hit]
  by_cases full : hitLimit ≤ (hits ++ [h]).length
  · have all : (hits ++ [h]).take hitLimit = hits ++ [h] := List.take_of_length_le (by omega)
    simp only [if_pos full, if_neg (Nat.not_lt.mpr full), all]
  · simp only [if_neg full, if_pos (Nat.lt_of_not_le full)]

variable {find : String → List ByteMatch} (successive : ∀ line, Successive line (find line))

include successive

theorem addFile_upToLimit (file : String × String) {hits : List Hit}
    (below : hits.length < hitLimit) :
    addFile find hits file = upToLimit (hits ++ hitsOf find file) := by
  have all : hitsOf find file = (Text.lines file.2).zipIdx.flatMap fun (line, i) =>
      (find line).flatMap fun m => (hitOf? file.1 line i m).toList := by
    simp only [hitsOf, lineMatches, List.flatMap_assoc, List.flatMap_map]
    rfl
  rw [all]
  refine foldlM_upToLimit ?_ below
  rintro ⟨line, i⟩ inside hits below
  refine foldlM_upToLimit ?_ below
  intro m found hits below
  obtain ⟨h, hit, -⟩ := exists_hit (o := ⟨line, i, m⟩) successive file.1
    (List.mem_flatMap.mpr ⟨_, inside, List.mem_map_of_mem found⟩)
  have there : hitOf? file.1 line i m = some h := hit
  rw [addMatch_upToLimit there below, there]
  rfl

theorem hitsInBytes?_eq_take (files : List (String × String)) :
    hitsInBytes? find files = some ((files.flatMap (hitsOf find)).take hitLimit) := by
  have all : files.foldlM (addFile find) [] = upToLimit ([] ++ files.flatMap (hitsOf find)) :=
    foldlM_upToLimit (fun file _ hits => addFile_upToLimit successive file) (by decide)
  unfold hitsInBytes?
  rw [all, List.nil_append, upToLimit]
  by_cases short : (files.flatMap (hitsOf find)).length < hitLimit
  · rw [if_pos short, List.take_of_length_le (Nat.le_of_lt short)]
  · rw [if_neg short]

end Workspace

/-! ## The matches of a pattern -/

namespace Pattern

/-- The match found so far, if it is not replaced by that of a thread that has ended. -/
theorem best_length {length : Nat} {ended : Option Thread} {best : Option Found}
    (inside : ∀ b ∈ best, b.length ≤ length) :
    ∀ b ∈ (match (motive := Option Thread → Option Found) ended with
      | some t => some ⟨length, t.marks⟩
      | none => best), b.length ≤ length := by
  cases ended with
  | none => exact inside
  | some t =>
      rintro b ⟨⟩
      exact Nat.le_refl length

theorem runThreads_length {m : Machine} {offset length : Nat} {before : Option Char}
    {rest : List Char} {ts : List Thread} {best : Option Found} {f : Found}
    (inside : ∀ b ∈ best, b.length ≤ length)
    (found : runThreads m offset length before rest ts best = some f) :
    f.length ≤ length + rest.length := by
  induction rest generalizing length before ts best with
  | nil =>
      unfold runThreads at found
      exact best_length inside f found
  | cons c rest ih =>
      unfold runThreads at found
      dsimp only at found
      split at found
      · exact Nat.le_add_right_of_le (best_length inside f found)
      · have later := ih (fun b member => Nat.le_succ_of_le (best_length inside b member)) found
        rw [List.length_cons]
        omega

namespace Machine

theorem matchHere_length {m : Machine} {offset : Nat} {before : Option Char} {text : List Char}
    {f : Found} (found : m.matchHere offset before text = some f) : f.length ≤ text.length := by
  have inside := runThreads_length (fun b none => absurd none (Option.not_mem_none b)) found
  rwa [Nat.zero_add] at inside

/-- Matches that come one after the other, all in a part of a text. -/
structure Sequenced (start stop : Nat) (ms : List Match) : Prop where
  inside : ∀ x ∈ ms, start ≤ x.start ∧ x.start + x.length ≤ stop
  apart : ms.Pairwise fun x y => x.start + x.length ≤ y.start ∧ x.start < y.start

theorem Sequenced.widen {start start' stop : Nat} {ms : List Match}
    (sequenced : Sequenced start stop ms) (le : start' ≤ start) : Sequenced start' stop ms where
  inside x member := ⟨Nat.le_trans le (sequenced.inside x member).1, (sequenced.inside x member).2⟩
  apart := sequenced.apart

theorem Sequenced.cons {start stop : Nat} {ms : List Match} {x : Match}
    (sequenced : Sequenced start stop ms) (ends : x.start + x.length ≤ start)
    (further : x.start < start) (within : x.start + x.length ≤ stop) :
    Sequenced x.start stop (x :: ms) where
  inside := by
    refine List.forall_mem_cons.mpr ⟨⟨Nat.le_refl _, within⟩, fun y member => ?_⟩
    have later := sequenced.inside y member
    exact ⟨by omega, later.2⟩
  apart := by
    refine List.pairwise_cons.mpr ⟨fun y member => ?_, sequenced.apart⟩
    have later := (sequenced.inside y member).1
    exact ⟨by omega, by omega⟩

theorem sequenced_matchesFrom (m : Machine) (offset : Nat) (before : Option Char) (skip : Nat)
    (touching : Bool) (text : List Char) :
    Sequenced (offset + skip) (offset + text.length)
      (m.matchesFrom offset before skip touching text) := by
  induction text generalizing offset before skip touching with
  | nil =>
      unfold matchesFrom
      split
      · rename_i f found
        have ends := matchHere_length found
        refine ⟨?_, List.pairwise_singleton _ _⟩
        intro x member
        rw [List.mem_singleton.mp member]
        exact ⟨Nat.le_refl _, Nat.add_le_add_left ends offset⟩
      · exact ⟨nofun, .nil⟩
  | cons c rest ih =>
      have stop : offset + (c :: rest).length = offset + 1 + rest.length := by
        rw [List.length_cons]
        omega
      rw [stop]
      cases skip with
      | succ skip =>
          have later := ih (offset + 1) (some c) skip touching
          rw [Nat.add_assoc, Nat.add_comm 1] at later
          exact later
      | zero =>
          have next (length : Nat) (touching : Bool) := ih (offset + 1) (some c) length touching
          have onward : offset + 0 ≤ offset + 1 + 0 := by omega
          unfold matchesFrom
          dsimp only
          cases found : m.matchHere offset before (c :: rest) with
          | none => exact (next 0 false).widen onward
          | some f =>
              have within := matchHere_length found
              rw [List.length_cons] at within
              obtain ⟨_ | length, marks⟩ := f
              · cases touching with
                | true => exact (next 0 false).widen onward
                | false =>
                    refine (next 0 false).cons (x := ⟨offset, 0, marks⟩) ?_ ?_ ?_
                    all_goals dsimp only; omega
              · refine (next length true).cons (x := ⟨offset, length + 1, marks⟩) ?_ ?_ ?_
                all_goals dsimp only at within ⊢; omega

/-- All matches of a pattern are in the text and come one after the other. -/
theorem sequenced_findAll (m : Machine) (text : List Char) :
    Sequenced 0 text.length (m.findAll text) := by
  have sequenced := sequenced_matchesFrom m 0 none 0 false text
  rwa [Nat.zero_add text.length] at sequenced

end Machine

def Match.inBytes (line : List Char) (x : Match) : ByteMatch :=
  ⟨byteCount (line.take x.start), byteCount (line.take (x.start + x.length))⟩

/-- All matches of a pattern in a line, by bytes. -/
def Machine.findBytes (m : Machine) (line : String) : List ByteMatch :=
  (m.findAll line.toList).map (Match.inBytes line.toList)

/-- The matches of a pattern are between characters and in order. -/
theorem Machine.successive_findBytes (m : Machine) (line : String) :
    Successive line (m.findBytes line) := by
  obtain ⟨inside, apart⟩ := m.sequenced_findAll line.toList
  refine ⟨?_, List.pairwise_map.mpr (apart.imp_of_mem ?_)⟩
  · intro b member
    obtain ⟨x, found, rfl⟩ := List.mem_map.mp member
    exact ⟨x.start, x.start + x.length, Nat.le_add_right _ _, (inside x found).2, rfl, rfl⟩
  · intro x y _ member next
    have within := (inside y member).2
    exact ⟨Text.byteCount_take_le _ next.1, Text.byteCount_take_lt _ next.2 (by omega)⟩

end Pattern

/-! ## Coordinates -/

theorem take_flatMap {α β : Type} (f : α → List β) (xs : List α) (n : Nat) :
    ∃ parts, (xs.flatMap f).take n = parts.flatten
      ∧ List.Forall₂ (fun x part => ∃ k, part = (f x).take k) xs parts := by
  induction xs generalizing n with
  | nil => exact ⟨[], by simp, .nil⟩
  | cons x xs ih =>
      obtain ⟨parts, rest, each⟩ := ih (n - (f x).length)
      refine ⟨(f x).take n :: parts, ?_, .cons ⟨n, rfl⟩ each⟩
      rw [List.flatMap_cons, List.take_append, rest, List.flatten_cons]

/-- The hits of a search in a file: they show its first matches, in order, and all of them if the
search goes through the whole file. -/
structure FileHits (find : String → List ByteMatch) (whole : Prop) (file : String × String)
    (hits : List Hit) : Prop where
  shows : ∃ told, told <+: lineMatches find file.2 ∧ (whole → told = lineMatches find file.2)
    ∧ List.Forall₂ (Hit.Shows file.1 file.2) told hits
  ordered : hits.Pairwise Hit.Before

theorem fileHits_take {find : String → List ByteMatch}
    (successive : ∀ line, Successive line (find line)) (file : String × String) {whole : Prop}
    {k : Nat} (enough : whole → (hitsOf find file).length ≤ k) :
    FileHits find whole file ((hitsOf find file).take k) := by
  have shows := shows_hitsOf successive file
  have ordered := pairwise_of_shows shows (pairwise_lineMatches successive file.2)
    fun o member => (of_mem_lineMatches member).1
  refine ⟨⟨(lineMatches find file.2).take k, List.take_prefix .., ?_, List.forall₂_take k shows⟩,
    ordered.sublist (List.take_sublist ..)⟩
  intro goes
  exact List.take_of_length_le (shows.length_eq ▸ enough goes)

/-- A search by bytes finds what the search by characters does. -/
theorem hitsInBytes?_findAll (m : Pattern.Machine) (files : List (String × String)) :
    Workspace.hitsInBytes? m.findBytes files = some (Workspace.hitsInFiles m.findAll files) := by
  have same (file : String × String) :
      hitsOf m.findBytes file = Workspace.hitsIn m.findAll file.1 file.2 := by
    simp only [hitsOf, lineMatches, Workspace.hitsIn, List.flatMap_assoc, List.flatMap_map,
      Pattern.Machine.findBytes]
    apply List.flatMap_congr
    rintro ⟨line, i⟩ -
    rw [List.map_eq_flatMap]
    apply List.flatMap_congr
    intro x member
    have within := ((m.sequenced_findAll line.toList).inside x member).2
    have hit := hitOf?_take file.1 line i (Nat.le_add_right x.start x.length) within
    rw [Nat.add_sub_cancel_left] at hit
    exact congrArg Option.toList hit
  rw [Workspace.hitsInBytes?_eq_take m.successive_findBytes, Workspace.hitsInFiles]
  exact congrArg (fun hits => some (List.take Workspace.hitLimit hits))
    (List.flatMap_congr fun file _ => same file)

theorem search_read {w : Workspace} {pattern : String} {m : Pattern.Machine}
    (read : Pattern.Machine.ofPattern { ignoreCase := true } pattern = .ok m) :
    (Workspace.search pattern).run.run w
      = (.ok (Workspace.hitsInFiles m.findAll w.searchedFiles), w) := by
  unfold Workspace.search
  rw [read]
  rfl

/-- For matches that are in order and between characters there are at most as many hits as the limit
says. File by file, they show the matches of the lines, in order, at the coordinates that the
matches have in a buffer. If there are fewer than the limit says, every match on every line is
shown. A search of a workspace comes to the hits of its pattern, whose matches are so, in the files
that it goes through. -/
theorem hitsInBytes?_coordinates {find : String → List ByteMatch}
    (successive : ∀ line, Successive line (find line)) (files : List (String × String)) :
    (∃ hits parts, Workspace.hitsInBytes? find files = some hits
      ∧ hits.length ≤ Workspace.hitLimit
      ∧ hits = parts.flatten
      ∧ List.Forall₂ (FileHits find (hits.length < Workspace.hitLimit)) files parts)
    ∧ ∀ (w : Workspace) (pattern : String) (m : Pattern.Machine),
      Pattern.Machine.ofPattern { ignoreCase := true } pattern = .ok m →
      (∀ line, Successive line (m.findBytes line))
        ∧ ∃ hits, (Workspace.search pattern).run.run w = (.ok hits, w)
          ∧ Workspace.hitsInBytes? m.findBytes w.searchedFiles = some hits := by
  refine ⟨?_, fun w pattern m read => ⟨m.successive_findBytes, _, search_read read,
    hitsInBytes?_findAll m w.searchedFiles⟩⟩
  have found := Workspace.hitsInBytes?_eq_take successive files
  by_cases short : (files.flatMap (hitsOf find)).length < Workspace.hitLimit
  · rw [List.take_of_length_le (Nat.le_of_lt short)] at found
    refine ⟨_, files.map (hitsOf find), found, Nat.le_of_lt short, List.flatMap_def .., ?_⟩
    rw [List.forall₂_map_right_iff, List.forall₂_same]
    intro file _
    have all : FileHits find ((files.flatMap (hitsOf find)).length < Workspace.hitLimit) file
        ((hitsOf find file).take (hitsOf find file).length) :=
      fileHits_take successive file fun _ => Nat.le_refl _
    rwa [List.take_length] at all
  · obtain ⟨parts, split, each⟩ := take_flatMap (hitsOf find) files Workspace.hitLimit
    have full : ((files.flatMap (hitsOf find)).take Workspace.hitLimit).length
        = Workspace.hitLimit := List.length_take_of_le (Nat.le_of_not_lt short)
    refine ⟨_, parts, found, Nat.le_of_eq full, split, each.imp ?_⟩
    rintro file part ⟨k, rfl⟩
    refine fileHits_take successive file fun fewer => ?_
    exact absurd fewer (Nat.not_lt.mpr (Nat.le_of_eq full.symm))

/-- The letter é in either case. -/
def Pattern.Machine.acuteE : Pattern.Machine :=
  ⟨#[.accept, .set ⟨#[(0xC9, 0xC9), (0xE9, 0xE9)]⟩ 0], 1, [], false⟩

theorem hitsInBytes?_coordinates_acuteE :
    ∃ parts, Workspace.hitsInBytes? Pattern.Machine.acuteE.findBytes [("a.txt", "aé\r\nÉx")]
        = some [⟨"a.txt", 0, 1, 1⟩, ⟨"a.txt", 1, 0, 1⟩]
      ∧ [⟨"a.txt", 0, 1, 1⟩, ⟨"a.txt", 1, 0, 1⟩] = parts.flatten
      ∧ List.Forall₂ (FileHits Pattern.Machine.acuteE.findBytes (2 < Workspace.hitLimit))
        [("a.txt", "aé\r\nÉx")] parts := by
  obtain ⟨⟨hits, parts, found, -, split, each⟩, -⟩ :=
    hitsInBytes?_coordinates Pattern.Machine.acuteE.successive_findBytes [("a.txt", "aé\r\nÉx")]
  have known : Workspace.hitsInBytes? Pattern.Machine.acuteE.findBytes [("a.txt", "aé\r\nÉx")]
      = some [⟨"a.txt", 0, 1, 1⟩, ⟨"a.txt", 1, 0, 1⟩] := by
    decide +kernel
  rw [known, Option.some.injEq] at found
  subst found
  exact ⟨parts, known, split, each⟩

end ReplyScript
