/-
# Watching a directory

A watch looks at a directory again and again, and between two looks anything may become of the
files.  The looks follow one another: each is over, with all that it ingests and keeps, before
the next one begins, and nothing but the watch changes the files meanwhile.  Each time it takes in the release files that it can read and has not taken in before, one
after the other, and keeps its store after each of them.  So every path is taken in once at most,
with the text that it has at the time.  Keeping the store changes none of these texts, unless the
store is kept in a release file itself.
-/
import Mathlib
import Deprecation.Proofs.Files.Listing
import Deprecation.Proofs.Service.Processes
import Deprecation.Watch

namespace Deprecation

open FileTree

namespace Watch

variable {name version directory : String} {t : FileTree}

/-! ## Names of release files -/

/-- The name of a file with the notes of a release: the version behind any number of `v`, and the
extension of a Markdown file.  A version starts with a digit. -/
structure NamedFor (name version : String) : Prop where
  spelled : ∃ k, name.toList = List.replicate k 'v' ++ version.toList ++ ['.', 'm', 'd']
  digit : ∃ c rest, version.toList = c :: rest ∧ c.isDigit = true

/-- A release file, with the text that it has when it is taken in. -/
structure Taken where
  name : String
  version : String
  text : String

/-- The path of the file in its directory. -/
def Taken.path (directory : String) (r : Taken) : String := Path.join directory r.name

/-- To ingest the notes in the file. -/
def Taken.job (r : Taken) : Job := .ingest r.text r.version

/-- The files after jobs of a service that keeps its store after each of them. -/
def filesAfter (x : Service) (clock : Clock) (t : FileTree) : List Job → FileTree
  | [] => t
  | job :: jobs =>
    filesAfter (x.perform clock job).2.1 (x.perform clock job).2.2
      (outcome (x.perform clock job).2.1.persist t).2 jobs

/-- The text of a file when it is its turn, after others have been taken in. -/
def textAtTurn (directory : String) (x : Service) (clock : Clock) (t : FileTree)
    (taken : List Taken) (name : String) : Except FileError String :=
  (filesAfter x clock t ((taken.filter (·.name < name)).map Taken.job)).textAt
    (Path.join directory name)

section Turns

variable {x : Service} {clock : Clock} {taken : List Taken} {r : Taken}

/-- The first file has its turn before anything has changed. -/
lemma textAtTurn_of_le (h : ∀ r ∈ taken, name ≤ r.name) :
    textAtTurn directory x clock t taken name = t.textAt (Path.join directory name) := by
  have hnone : taken.filter (·.name < name) = [] := by
    rw [List.filter_eq_nil_iff]
    intro r hr
    rw [decide_eq_true_iff, not_lt]
    exact h r hr
  rw [textAtTurn, hnone]
  rfl

/-- A later file has its turn after the first one was taken in. -/
lemma textAtTurn_cons (h : r.name < name) :
    textAtTurn directory x clock t (r :: taken) name =
      textAtTurn directory (x.perform clock r.job).2.1 (x.perform clock r.job).2.2
        (outcome (x.perform clock r.job).2.1.persist t).2 taken name := by
  have hfilter : (r :: taken).filter (·.name < name) = r :: taken.filter (·.name < name) :=
    List.filter_cons_of_pos (decide_eq_true_iff.mpr h)
  rw [textAtTurn, hfilter]
  rfl

end Turns

/-! ## One file -/

section TakeIn

variable {w : Watch} {clock : Clock} {r : Taken}

/-- A watch that has taken in a file. -/
def takes (directory : String) (w : Watch) (clock : Clock) (r : Taken) : Watch where
  service := (w.service.perform clock r.job).2.1
  seen := r.path directory :: w.seen

end TakeIn

/-! ## Files one after the other -/

/-- What has become of a watch, with the clock, when it has taken in some files. -/
structure Took (directory : String) (w : Watch) (clock : Clock) (taken : List Taken)
    (o : Watch × Clock) : Prop where
  service : (o.1.service, o.2) = (w.service.performAll clock (taken.map Taken.job)).2
  seen : ∀ path, path ∈ o.1.seen ↔
    path ∈ w.seen ∨ path ∈ taken.map (Taken.path directory)

/-- Of some files, given with their versions, those are picked that were not seen and that can be
read when it is their turn. -/
structure Picks (directory : String) (w : Watch) (clock : Clock) (t : FileTree)
    (files : List (String × String)) (taken : List Taken) : Prop where
  ordered : taken.Pairwise fun r r' => r.name < r'.name
  mem_iff : ∀ r, r ∈ taken ↔ (r.version, r.name) ∈ files ∧ r.path directory ∉ w.seen ∧
    textAtTurn directory w.service clock t taken r.name = .ok r.text

section Picks

variable {w : Watch} {clock : Clock} {files : List (String × String)} {taken : List Taken}

lemma Picks.behind (h : Picks directory w clock t files taken)
    (hfirst : ∀ e ∈ files, name < e.2) : ∀ r ∈ taken, name < r.name :=
  fun r hr => hfirst _ ((h.mem_iff r).mp hr).1

/-- A file that is taken in comes before those that are picked after it. -/
lemma Picks.take {r : Taken} (h : Picks directory (w.takes directory clock r)
      (w.service.perform clock r.job).2.2
      (outcome (w.service.perform clock r.job).2.1.persist t).2 files taken)
    (hfirst : ∀ e ∈ files, r.name < e.2)
    (hpath : ∀ r' : Taken, (r'.version, r'.name) ∈ files → r'.path directory ≠ r.path directory)
    (hseen : r.path directory ∉ w.seen) (htext : t.textAt (r.path directory) = .ok r.text) :
    Picks directory w clock t ((r.version, r.name) :: files) (r :: taken) where
  ordered := List.pairwise_cons.mpr ⟨h.behind hfirst, h.ordered⟩
  mem_iff := by
    have hle : ∀ r' ∈ r :: taken, r.name ≤ r'.name := by
      rintro r' (_ | ⟨_, hr'⟩)
      · exact le_rfl
      · exact (h.behind hfirst r' hr').le
    have hturn : textAtTurn directory w.service clock t (r :: taken) r.name = .ok r.text :=
      (textAtTurn_of_le hle).trans htext
    intro r'
    rw [List.mem_cons, List.mem_cons, h.mem_iff]
    constructor
    · rintro (rfl | ⟨hr', hunseen, htext'⟩)
      · exact ⟨Or.inl rfl, hseen, hturn⟩
      · refine ⟨Or.inr hr', fun hmem => hunseen (List.mem_cons_of_mem _ hmem), ?_⟩
        rw [textAtTurn_cons (hfirst _ hr')]
        exact htext'
    · rintro ⟨heq | hr', hunseen, htext'⟩
      · obtain ⟨hversion, hname⟩ := Prod.mk.inj heq
        rw [hname, hturn] at htext'
        cases r
        cases r'
        cases htext'
        cases hversion
        cases hname
        exact Or.inl rfl
      · rw [textAtTurn_cons (hfirst _ hr')] at htext'
        exact Or.inr ⟨hr', List.not_mem_cons_of_ne_of_not_mem (hpath r' hr') hunseen, htext'⟩

lemma performAll_cons_snd (x : Service) (clock : Clock) (job : Job) (jobs : List Job) :
    (x.performAll clock (job :: jobs)).2
      = ((x.perform clock job).2.1.performAll (x.perform clock job).2.2 jobs).2 := rfl

lemma Took.cons {r : Taken} {o : Watch × Clock}
    (h : Took directory (w.takes directory clock r) (w.service.perform clock r.job).2.2 taken o) :
    Took directory w clock (r :: taken) o where
  service := by
    rw [List.map_cons, performAll_cons_snd]
    exact h.service
  seen := by
    intro path
    rw [h.seen path, takes, List.map_cons, List.mem_cons, List.mem_cons, or_assoc, or_left_comm]

end Picks

/-! ## What keeping the store leaves as it was -/

section Undisturbed

variable {p : Place} {bytes : ByteArray} (hname : IsName name) (hslash : '/' ∉ name.toList)
include hname hslash

end Undisturbed

/-! ## One look -/

/-- What a watch finds when it looks at its directory: the files, and the clock. -/
structure Look where
  files : FileTree
  clock : Clock

/-- The files that a service is to ingest at a look, in the order of their names: the release files
in the directory that were not ingested earlier and that can be read when it is their turn.  What
is read then is what was there when the look began, unless the store is kept in the file. -/
structure Due (directory : String) (x : Service) (l : Look) (earlier : List String)
    (taken : List Taken) : Prop where
  ordered : taken.Pairwise fun r r' => r.name < r'.name
  mem_iff : ∀ r, r ∈ taken ↔ (∃ p bytes, l.files.Holds directory r.name p bytes) ∧
    NamedFor r.name r.version ∧ r.path directory ∉ earlier ∧
    textAtTurn directory x l.clock l.files taken r.name = .ok r.text
  current : ∀ name version p bytes, l.files.Holds directory name p bytes →
    NamedFor name version → leadsTo l.files.working (Path.join directory name)
      ≠ leadsTo l.files.working x.settings.storeFile →
    textAtTurn directory x l.clock l.files taken name
      = l.files.textAt (Path.join directory name)

section Releases

variable {entries : List String}

end Releases

/-- A watch after some looks at its directory. -/
def watching (directory : String) (w : Watch) (looks : List Look) : Watch :=
  looks.foldl (fun w l => ((w.tick l.clock directory : StateM FileTree _) l.files).1.2.1) w

/-- A service that ingests the files of each look, one after the other. -/
def ingestedOver (x : Service) (rounds : List (Look × List Taken)) : Service :=
  rounds.foldl (fun x round => (x.performAll round.1.clock (round.2.map Taken.job)).2.1) x

/-- What is taken in over some looks by a watch that has seen some paths. -/
structure TakenOver (directory : String) (x : Service) (earlier : List String)
    (looks : List Look) (taken : List (List Taken)) : Prop where
  length_eq : taken.length = looks.length
  due : ∀ i l rs, looks[i]? = some l → taken[i]? = some rs →
    Due directory (ingestedOver x ((looks.zip taken).take i)) l
      (earlier ++ (taken.take i).flatten.map (Taken.path directory)) rs
  once : (taken.flatten.map (Taken.path directory)).Nodup
  unseen : ∀ path ∈ taken.flatten.map (Taken.path directory), path ∉ earlier

lemma TakenOver.cons {x : Service} {earlier : List String} {l : Look} {looks : List Look}
    {first : List Taken} {taken : List (List Taken)} (hdue : Due directory x l earlier first)
    (hfirst : (first.map (Taken.path directory)).Nodup)
    (h : TakenOver directory (x.performAll l.clock (first.map Taken.job)).2.1
      (earlier ++ first.map (Taken.path directory)) looks taken) :
    TakenOver directory x earlier (l :: looks) (first :: taken) where
  length_eq := by rw [List.length_cons, List.length_cons, h.length_eq]
  due := by
    intro i l' rs hl hrs
    cases i with
    | zero =>
      obtain rfl : l = l' := Option.some.inj hl
      obtain rfl : first = rs := Option.some.inj hrs
      simpa [ingestedOver] using hdue
    | succ i =>
      have hnext := h.due i l' rs hl hrs
      rw [List.append_assoc, ← List.map_append] at hnext
      exact hnext
  once := by
    rw [List.flatten_cons, List.map_append, List.nodup_append]
    refine ⟨hfirst, h.once, ?_⟩
    rintro path hpath path' hpath' rfl
    exact h.unseen path hpath' (List.mem_append_right earlier hpath)
  unseen := by
    intro path hpath hearlier
    rw [List.flatten_cons, List.map_append, List.mem_append] at hpath
    rcases hpath with hpath | hpath
    · obtain ⟨r, hr, rfl⟩ := List.mem_map.mp hpath
      exact ((hdue.mem_iff r).mp hr).2.2.1 hearlier
    · exact h.unseen path hpath (List.mem_append_left _ hearlier)

end Watch
end Deprecation
