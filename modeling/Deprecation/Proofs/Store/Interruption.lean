/-
# Keeping a snapshot on a disk that fails

Keeping a snapshot may fail or be cut off at any of its steps.  Each attempt either moves the
whole snapshot to its place or changes nothing that the path reads, so after any number of attempts
the path reads the last snapshot that was moved.  There is one exception, where none was moved: an
attempt may make the directories that lead to the place, and a path with a name that is too long is
not found as long as one of them is missing, but is refused once it is there.
-/
import Mathlib
import Deprecation.Proofs.Files.Faulty
import Deprecation.Proofs.Store.File

namespace Deprecation
namespace SnapshotFile

open FileTree FaultyDisk

variable {t : FileTree} {path : String} {bytes : ByteArray}

/-! ## One attempt -/

/-- An attempt to keep a snapshot, and what becomes of its operations. -/
structure Attempt where
  bytes : ByteArray
  fates : List Fate

/-- What an attempt comes to, if it is not cut off, and the disk that it leaves. -/
def Attempt.run (a : Attempt) (path : String) (t : FileTree) :
    Option (Except MediumError Unit) × FaultyDisk :=
  FaultyDisk.run (save path a.bytes) ⟨t, a.fates, false⟩

/-- Where a snapshot is kept. -/
def site (working : Place) (path : String) : Site where
  start := if Path.isAbsolute path then [] else working
  directory := (leadsTo working path).dropLast
  name := (Path.fileName path).getD ""
  other := (Path.fileName path).getD "" ++ ".tmp"
  name_ne_other := by
    intro h
    have hlength := congrArg String.length h
    rw [String.length_append] at hlength
    exact absurd hlength (by simp)

section Site

variable (working : Place) (h : (Path.fileName path).isSome)
include h

lemma place_site : (site working path).place = leadsTo working path := by
  obtain ⟨name, hname⟩ := Option.isSome_iff_exists.mp h
  obtain ⟨-, p, hp⟩ := leadsTo_of_fileName hname working
  show (leadsTo working path).dropLast ++ [(Path.fileName path).getD ""] = _
  rw [hname, hp, List.dropLast_concat]
  rfl

lemma aside_site : (site working path).aside = leadsTo working (temporary path) := by
  obtain ⟨name, hname⟩ := Option.isSome_iff_exists.mp h
  obtain ⟨hslash, -⟩ := leadsTo_of_fileName hname working
  obtain ⟨q, hq, hleads⟩ := exists_parent_of_fileName hname
  show (leadsTo working path).dropLast ++ [(Path.fileName path).getD "" ++ ".tmp"] = _
  rw [temporary, Path.withFileName, hname, hq, hleads working, List.dropLast_concat]
  exact (leadsTo_join_tmp working q hslash).symm

/-- The directories that lead to a snapshot file are on the way to it. -/
lemma paves_makeParents (hdots : ".." ∉ names path) :
    Paves (site working path) working (makeParents path : ExceptT FileError Risky Unit) := by
  obtain ⟨name, hname⟩ := Option.isSome_iff_exists.mp h
  obtain ⟨q, hq, hleads⟩ := exists_parent_of_fileName hname
  obtain ⟨hdots', habsolute, -⟩ := parent_leadsTo hq hdots working
  rw [makeParents, hq]
  refine paves_makeDirectories ⟨hdots', ?_, ?_⟩
  · rw [habsolute]
    rfl
  · rw [site, hleads working, List.dropLast_concat]

end Site

/-- An attempt to which nothing happens comes to what keeping the snapshot comes to. -/
theorem run_without_faults (path : String) (t : FileTree) (bytes : ByteArray) :
    (Attempt.run ⟨bytes, []⟩ path t).1 = some (outcome (save path bytes) t).1 ∧
      (Attempt.run ⟨bytes, []⟩ path t).2.tree = (outcome (save path bytes) t).2 := by
  have hparents : Calm (makeParents path) (makeParents path) := by
    rw [makeParents, makeParents]
    split
    · exact calm_makeDirectories _
    · exact calm_pure ()
  have hsave : Calm (save path bytes) (save path bytes) := by
    refine (hparents.bind fun _ => ?_).adapt _
    refine (calm_change (fun t => t.write (temporary path) bytes) _ _).bind fun _ => ?_
    exact calm_change (fun t => t.rename (temporary path) path) _ _
  obtain ⟨moved, hrun⟩ := hsave t false
  rw [Attempt.run, hrun]
  exact ⟨rfl, rfl⟩

/-- An attempt for which the directories have been made. -/
lemma run_of_makeParents {a : Attempt} {d : FaultyDisk}
    (h : FaultyDisk.run (makeParents path) ⟨t, a.fates, false⟩ = (some (.ok ()), d)) :
    a.run path t
      = ((FaultyDisk.run (do writeAside path a.bytes; moveIntoPlace path) d).1.map
          (Except.mapError (.file path)),
        (FaultyDisk.run (do writeAside path a.bytes; moveIntoPlace path) d).2) := by
  rw [Attempt.run, save, run_adapt, run_bind, h]

/-- How an attempt to keep a snapshot may end. -/
inductive Attempted {ε : Type} (t : FileTree) (path : String) (bytes : ByteArray) :
    Option (Except ε Unit) × FaultyDisk → Prop
  /-- Nothing was changed but on the way to the place of the snapshot and beside it. -/
  | unmoved (r : Option (Except ε Unit)) (d : FaultyDisk) (hr : r ≠ some (.ok ()))
    (hmoved : d.moved = false) (hdiffers : Differs (site t.working path) t d.tree) :
    Attempted t path bytes (r, d)
  /-- The snapshot was moved to its place, and nothing was left beside it. -/
  | moved (r : Option (Except ε Unit)) (d : FaultyDisk) (hr : ∀ e, r ≠ some (.error e))
    (hmoved : d.moved = true) (t₁ : FileTree) (hdiffers : Differs (site t.working path) t t₁)
    (hworking : d.tree.working = t.working)
    (hfind : ∀ p, d.tree.find? p = if p = leadsTo t.working path then some (.file bytes)
      else if p = leadsTo t.working (temporary path) then none else t₁.find? p)
    (hread : d.tree.read path = .ok bytes) : Attempted t path bytes (r, d)

lemma Attempted.adapt {ε ε' : Type} {r : Option (Except ε Unit)} {d : FaultyDisk} (f : ε → ε')
    (h : Attempted t path bytes (r, d)) :
    Attempted t path bytes (r.map (Except.mapError f), d) := by
  cases h with
  | unmoved _ _ hr hmoved hdiffers =>
    refine .unmoved _ _ ?_ hmoved hdiffers
    rcases r with _ | _ | _ <;> simp_all [Except.mapError]
  | moved _ _ hr hmoved t₁ hdiffers hworking hfind hread =>
    refine .moved _ _ ?_ hmoved t₁ hdiffers hworking hfind hread
    rcases r with _ | _ | _ <;> simp_all [Except.mapError]

lemma differs_write {s : Site} {q : String} {t' : FileTree} (haside : leadsTo t.working q = s.aside)
    (h : t.write q bytes = .ok t') : Differs s t t' := by
  rw [(write_eq_ok h).2, haside]
  exact Differs.put_aside s t _

lemma differs_brokenWrite {s : Site} {q : String} (haside : leadsTo t.working q = s.aside)
    (left : Option ByteArray) : Differs s t (brokenWrite q left t) := by
  cases left with
  | none => exact Differs.refl s t
  | some bytes =>
    rw [brokenWrite]
    cases h : t.write q bytes with
    | error e => exact Differs.refl s t
    | ok t' => exact differs_write haside h

/-- The last step of an attempt, when the snapshot has been written beside its place. -/
lemma attempted_moveIntoPlace {d : FaultyDisk}
    (hdiffers : Differs (site t.working path) t d.tree) (hmoved : d.moved = false)
    (hwritten : d.tree.find? (leadsTo t.working (temporary path)) = some (.file bytes)) :
    Attempted t path bytes (FaultyDisk.run (moveIntoPlace path) d) := by
  have hrun : FaultyDisk.run (moveIntoPlace path) d
      = change (fun t => t.rename (temporary path) path) (fun _ t => t) true d := rfl
  have hworking : d.tree.working = t.working := hdiffers.working
  have hcases := change_cases d (fun t => t.rename (temporary path) path) (fun _ t => t)
    (fun _ => rfl) true
  rw [hrun]
  generalize change (fun t => t.rename (temporary path) path) (fun _ t => t) true d = o at hcases
  rcases o with ⟨r, d'⟩
  -- a rename that breaks off has changed nothing
  rcases hcases with ⟨t', hrename, htree, hmoved', hr⟩ | ⟨left, htree, hmoved', hr⟩
  · obtain ⟨moved, hfind, hplace, rfl, hread⟩ := rename_eq_ok hrename
    rw [hworking] at hfind hplace htree
    obtain rfl : bytes = moved := by simpa using hwritten.symm.trans hfind
    refine .moved _ _ hr ?_ d.tree hdiffers ?_ ?_ ?_
    · exact hmoved'.trans (Bool.or_true _)
    · exact (congrArg FileTree.working htree).trans hworking
    · intro p
      have hne : d.tree.find? (leadsTo t.working (temporary path)) ≠ some .directory := by
        simp [hwritten]
      rw [htree, find?_put _ _ _ _ (ne_nil_of_not_directory hplace),
        find?_clear _ _ _ (ne_nil_of_not_directory hne)]
    · rw [hworking] at hread
      exact htree ▸ hread
  · refine .unmoved _ _ hr (hmoved'.trans hmoved) ?_
    exact htree ▸ hdiffers

/-- An attempt when the directories have been made. -/
lemma attempted_write (h : (Path.fileName path).isSome) {d : FaultyDisk}
    (hdiffers : Differs (site t.working path) t d.tree) (hmoved : d.moved = false) :
    Attempted t path bytes
      (FaultyDisk.run (do writeAside path bytes; moveIntoPlace path) d) := by
  have hrun : FaultyDisk.run (writeAside path bytes) d
      = change (fun t => t.write (temporary path) bytes) (brokenWrite (temporary path)) false d :=
    rfl
  have haside : leadsTo d.tree.working (temporary path) = (site t.working path).aside := by
    rw [hdiffers.working]
    exact (aside_site t.working h).symm
  have hcases := change_cases d (fun t => t.write (temporary path) bytes)
    (brokenWrite (temporary path)) (fun _ => rfl) false
  rw [run_bind, hrun]
  generalize change (fun t => t.write (temporary path) bytes) (brokenWrite (temporary path))
    false d = o at hcases
  rcases hcases with ⟨t', hwrite, htree, hmoved', hr⟩ | ⟨left, htree, hmoved', hr⟩
  · have hdiffers' : Differs (site t.working path) t o.2.tree :=
      hdiffers.trans (htree ▸ differs_write haside hwrite)
    rw [Bool.or_false, hmoved] at hmoved'
    -- it may be cut off behind a write that was carried out
    rcases o with ⟨_ | e | u, d'⟩
    · exact .unmoved _ _ (by simp) hmoved' hdiffers'
    · exact absurd rfl (hr e)
    · refine attempted_moveIntoPlace hdiffers' hmoved' ?_
      obtain ⟨hnot, rfl⟩ := write_eq_ok hwrite
      rw [hdiffers.working] at hnot htree
      rw [htree, find?_put _ _ _ _ (ne_nil_of_not_directory hnot), if_pos rfl]
  · have hdiffers' : Differs (site t.working path) t o.2.tree :=
      hdiffers.trans (htree ▸ differs_brokenWrite haside left)
    rcases o with ⟨_ | e | u, d'⟩
    · exact .unmoved _ _ (by simp) (hmoved'.trans hmoved) hdiffers'
    · exact .unmoved _ _ (by simp) (hmoved'.trans hmoved) hdiffers'
    · exact absurd rfl hr

theorem attempted_run (h : (Path.fileName path).isSome) (hdots : ".." ∉ names path) (a : Attempt)
    (t : FileTree) : Attempted t path a.bytes (a.run path t) := by
  have hpaves := paves_makeParents t.working h hdots ⟨t, a.fates, false⟩ rfl
  rw [Attempt.run, save, run_adapt]
  refine Attempted.adapt (MediumError.file path) ?_
  rw [Prod.mk.eta, run_bind]
  generalize FaultyDisk.run (makeParents path) ⟨t, a.fates, false⟩ = o at hpaves
  obtain ⟨hdiffers, hmoved⟩ := hpaves
  rcases o with ⟨_ | e | u, d⟩
  · exact .unmoved _ _ (by simp) hmoved hdiffers
  · exact .unmoved _ _ (by simp) hmoved hdiffers
  · exact attempted_write h hdiffers hmoved

/-! ## Attempts one after the other -/

/-- The files after attempts to keep snapshots, and the snapshot that was moved to its place
last. -/
structure History where
  tree : FileTree
  last : Option ByteArray

/-- Another attempt. -/
def History.attempt (path : String) (x : History) (a : Attempt) : History where
  tree := (a.run path x.tree).2.tree
  last := if (a.run path x.tree).2.moved then some a.bytes else x.last

/-- What attempts make of a tree of files, one after the other. -/
def after (path : String) (t : FileTree) (attempts : List Attempt) : History :=
  attempts.foldl (.attempt path) ⟨t, none⟩

lemma tree_after_singleton (path : String) (t : FileTree) (a : Attempt) :
    (after path t [a]).tree = (a.run path t).2.tree := rfl

/-- What attempts leave of the files before, and what is read after them. -/
structure Follows (t : FileTree) (path : String) (x : History) : Prop where
  working : x.tree.working = t.working
  others : ∀ p, p ≠ leadsTo t.working path → p ≠ leadsTo t.working (temporary path) →
    Stays t x.tree p
  unmoved : x.last = none → Differs (site t.working path) t x.tree
  moved : ∀ b, x.last = some b → x.tree.read path = .ok b

section Attempts

variable {x : History} (h : (Path.fileName path).isSome) (hdots : ".." ∉ names path)
include h hdots

/-- One attempt changes nothing but the two files, and makes directories. -/
lemma stays_attempt (a : Attempt) {p : Place} (hp : p ≠ leadsTo t.working path)
    (haside : p ≠ leadsTo t.working (temporary path)) : Stays t (a.run path t).2.tree p := by
  have hcases := attempted_run h hdots a t
  have haside' := haside
  rw [← aside_site t.working h] at haside'
  generalize a.run path t = o at hcases
  cases hcases with
  | unmoved r d hr hmoved hdiffers => exact hdiffers.stays p haside'
  | moved r d hr hmoved t₁ hdiffers hworking hfind hread =>
    rw [Stays, hfind, if_neg hp, if_neg haside]
    exact hdiffers.stays p haside'

lemma Follows.attempt (hx : Follows t path x) (a : Attempt) :
    Follows t path (x.attempt path a) := by
  have hcases := attempted_run h hdots a x.tree
  have hothers : ∀ p, p ≠ leadsTo t.working path → p ≠ leadsTo t.working (temporary path) →
      Stays t (a.run path x.tree).2.tree p := by
    intro p hp haside
    refine (hx.others p hp haside).trans (stays_attempt h hdots a ?_ ?_) <;> rwa [hx.working]
  rw [History.attempt]
  generalize a.run path x.tree = o at hcases hothers
  cases hcases with
  | unmoved r d hr hmoved hdiffers =>
    have hread : ∀ b, x.tree.read path = .ok b → d.tree.read path = .ok b := fun b =>
      hdiffers.read_eq_ok hdots rfl (place_site x.tree.working h).symm
    rw [hx.working] at hdiffers
    dsimp only
    rw [hmoved, if_neg Bool.false_ne_true]
    exact ⟨hdiffers.working.trans hx.working, hothers,
      fun hnone => (hx.unmoved hnone).trans hdiffers, fun b hb => hread b (hx.moved b hb)⟩
  | moved r d hr hmoved t₁ hdiffers hworking hfind hread =>
    dsimp only
    rw [hmoved, if_pos rfl]
    refine ⟨hworking.trans hx.working, hothers, nofun, ?_⟩
    rintro b ⟨rfl⟩
    exact hread

lemma follows_after (t : FileTree) (attempts : List Attempt) :
    Follows t path (after path t attempts) := by
  have hstart : Follows t path ⟨t, none⟩ :=
    ⟨rfl, fun p _ _ => Or.inl rfl, fun _ => .refl _ t, fun b hb => by cases hb⟩
  rw [after]
  generalize (⟨t, none⟩ : History) = x at hstart
  induction attempts generalizing x with
  | nil => exact hstart
  | cons a attempts ih => exact ih _ (hstart.attempt h hdots a)

/-- What is loaded when no attempt has moved a snapshot: what was loaded before, unless the way to
a name that is too long has been made. -/
lemma load_of_differs {t' : FileTree} (ht : t.Rooted)
    (hdiffers : Differs (site t.working path) t t') :
    (outcome (load path) t').1 = (outcome (load path) t).1 ∨
      ((outcome (load path) t).1 = .ok none ∧
        (outcome (load path) t').1 = .error (.file path .nameTooLong) ∧
        ∃ name ∈ names path, maxName < name.utf8ByteSize) := by
  rw [outcome_load, outcome_load, snapshotAt, snapshotAt]
  rcases hdiffers.read_eq_or ht hdots rfl (place_site t.working h).symm with
    hsame | ⟨hfound, hlong, hname⟩
  · rw [hsame]
    exact Or.inl rfl
  · rw [hfound, hlong]
    exact Or.inr ⟨rfl, rfl, hname⟩

/-- An attempt that ends well has moved its snapshot, and one that has moved it leaves nothing
beside its place. -/
lemma moved_of_ok (a : Attempt) (t : FileTree) :
    ((a.run path t).1 = some (.ok ()) → (a.run path t).2.moved = true) ∧
      ((a.run path t).2.moved = true →
        (a.run path t).2.tree.find? (leadsTo t.working (temporary path)) = none) := by
  have hcases := attempted_run h hdots a t
  generalize a.run path t = o at hcases
  cases hcases with
  | unmoved r d hr hmoved hdiffers =>
    exact ⟨fun hok => absurd hok hr, fun htrue => by simp [hmoved] at htrue⟩
  | moved r d hr hmoved t₁ hdiffers hworking hfind hread =>
    refine ⟨fun _ => hmoved, fun _ => ?_⟩
    rw [hfind, if_neg (leadsTo_temporary_ne t.working path), if_pos rfl]

end Attempts

/-- **Interrupted saves.**  After any attempts to keep snapshots at a path, each of which may fail
or be cut off anywhere, the last snapshot that was moved to its place is loaded.  If none was, then
what was loaded before them is loaded; but where that was nothing, a name that is too long may be
noticed now.  An attempt that ends well has moved its snapshot and leaves nothing beside it, and no
file but these two is ever changed. -/
theorem interrupted_saves_keep_last_moved (ht : t.Rooted) (h : (Path.fileName path).isSome)
    (hdots : ".." ∉ names path) (attempts : List Attempt) :
    (∀ b, (after path t attempts).last = some b →
      (outcome (load path) (after path t attempts).tree).1 = .ok (some b)) ∧
    ((after path t attempts).last = none →
      (outcome (load path) (after path t attempts).tree).1 = (outcome (load path) t).1 ∨
        ((outcome (load path) t).1 = .ok none ∧
          (outcome (load path) (after path t attempts).tree).1
            = .error (.file path .nameTooLong) ∧
          ∃ name ∈ names path, maxName < name.utf8ByteSize)) ∧
    (∀ a : Attempt, (a.run path (after path t attempts).tree).1 = some (.ok ()) →
      (after path t (attempts ++ [a])).last = some a.bytes ∧
        (after path t (attempts ++ [a])).tree.find? (leadsTo t.working (temporary path)) = none) ∧
    ∀ p, p ≠ leadsTo t.working path → p ≠ leadsTo t.working (temporary path) →
      Stays t (after path t attempts).tree p := by
  have hfollows := follows_after h hdots t attempts
  refine ⟨fun b hb => ?_, fun hnone => ?_, fun a hok => ?_, hfollows.others⟩
  · rw [outcome_load, snapshotAt, hfollows.moved b hb]
  · exact load_of_differs h hdots ht (hfollows.unmoved hnone)
  · obtain ⟨hmoved, hclear⟩ := moved_of_ok h hdots a (after path t attempts).tree
    have hlast : after path t (attempts ++ [a]) = (after path t attempts).attempt path a := by
      rw [after, List.foldl_append]
      rfl
    rw [hfollows.working] at hclear
    rw [hlast, History.attempt, if_pos (hmoved hok)]
    exact ⟨rfl, hclear (hmoved hok)⟩

lemma rooted_nil : (⟨[], []⟩ : FileTree).Rooted := by
  intro p name h
  simp [find?] at h

/-- The first snapshot outlives a second one that was cut off while it was written. -/
theorem first_save_outlives_cut_off_save :
    (⟨[], []⟩ : FileTree).Rooted ∧ (Path.fileName "m/s").isSome ∧ ".." ∉ names "m/s" ∧
      (outcome (load "m/s") (after "m/s" ⟨[], []⟩ [⟨⟨#[1]⟩, []⟩,
        ⟨⟨#[2]⟩, [.carriedOut, .carriedOut, .cutOff (some ⟨#[2]⟩)]⟩]).tree).1
        = .ok (some ⟨#[1]⟩) := by
  have hname : (Path.fileName "m/s").isSome := by decide
  have hdots : ".." ∉ names "m/s" := by decide
  refine ⟨rooted_nil, hname, hdots, ?_⟩
  exact (interrupted_saves_keep_last_moved rooted_nil hname hdots _).1 _ (by decide)

/-! ## A name that is too long -/

/-- A name that is too long. -/
def longName : List Char := List.replicate 256 'a'

/-- A path to a name that is too long, in a directory. -/
def overlong : String := String.ofList ('m' :: '/' :: longName)

lemma toList_overlong : overlong.toList = 'm' :: '/' :: longName := String.toList_ofList

lemma pieces_overlong : Path.pieces ('m' :: '/' :: longName) = [['m'], longName] := by
  have hslash : '/' ∉ longName := fun h => absurd (List.eq_of_mem_replicate h) (by decide)
  have happend := Path.pieces_append_slash ['m'] longName
  rw [Path.pieces_of_no_slash hslash] at happend
  exact happend

/-- Neither name is skipped. -/
lemma split_overlong : Path.split ('m' :: '/' :: longName) = ([], [['m'], longName]) := by
  rw [← pieces_overlong]
  rfl

lemma fileName_overlong : (Path.fileName overlong).isSome := by
  rw [Path.fileName, toList_overlong, split_overlong]
  rfl

lemma parent_overlong : Path.parent overlong = some "m" := by
  rw [Path.parent_eq, toList_overlong, split_overlong]
  rfl

lemma names_overlong : names overlong = ["m", String.ofList longName] := by
  rw [names, toList_overlong, pieces_overlong]
  rfl

lemma size_letters (n : Nat) : (String.ofList (List.replicate n 'a')).utf8ByteSize = n := by
  induction n with
  | zero => rfl
  | succ n ih =>
    rw [List.replicate_succ, String.ofList_cons, String.utf8ByteSize_append,
      String.utf8ByteSize_singleton, ih]
    exact Nat.add_comm 1 n

lemma size_longName : (String.ofList longName).utf8ByteSize = 256 := size_letters 256

lemma lt_size_longName : maxName < (String.ofList longName).utf8ByteSize := by
  rw [size_longName]
  decide

lemma isName_longName : IsName (String.ofList longName) := by
  have hne : ∀ name : String, name.utf8ByteSize ≤ maxName → String.ofList longName ≠ name := by
    intro name hname heq
    exact absurd (heq ▸ lt_size_longName) (Nat.not_lt.mpr hname)
  exact ⟨hne "" (by decide), hne "." (by decide), hne ".." (by decide)⟩

lemma isName_m : IsName "m" := ⟨by decide, by decide, by decide⟩

lemma dots_overlong : ".." ∉ names overlong := by
  rw [names_overlong, List.mem_cons, List.mem_singleton, not_or]
  exact ⟨by decide, Ne.symm isName_longName.2.2⟩

lemma place_overlong (ht : t.working = []) :
    t.place overlong = t.follow [] ["m", String.ofList longName] := by
  have hcheck : checkPath overlong = .ok () := by
    have hnull : ¬ overlong.toList.contains '\x00' = true := by
      rw [List.contains_iff_mem, toList_overlong, List.mem_cons, List.mem_cons, not_or, not_or]
      exact ⟨by decide, by decide, fun h => absurd (List.eq_of_mem_replicate h) (by decide)⟩
    have hempty : overlong ≠ "" := fun h => by
      have hlist := toList_overlong
      rw [h] at hlist
      cases hlist
    have hsize : ¬ maxPath < overlong.utf8ByteSize := by
      rw [overlong, String.ofList_cons, String.ofList_cons, String.utf8ByteSize_append,
        String.utf8ByteSize_append, String.utf8ByteSize_singleton, String.utf8ByteSize_singleton,
        size_longName]
      decide
    rw [checkPath, if_neg hnull, if_neg hempty, if_neg hsize]
  have hstart : t.start overlong = [] := by
    rw [FileTree.start, ht]
    exact ite_self []
  rw [FileTree.place, hcheck, hstart, names_overlong]
  rfl

lemma load_overlong_nil : (outcome (load overlong) ⟨[], []⟩).1 = .ok none := by
  rw [outcome_load, snapshotAt, FileTree.read, place_overlong rfl]
  rfl

lemma load_overlong (ht : t.working = []) (hm : t.find? ["m"] = some .directory) :
    (outcome (load overlong) t).1 = .error (.file overlong .nameTooLong) := by
  have hfollow : t.follow [] ["m", String.ofList longName] = .error .nameTooLong := by
    rw [follow_cons_of_isName rfl isName_m, if_neg (by decide), List.nil_append, hm,
      if_neg (by decide), follow_cons_of_isName (isDirectoryAt_iff.mpr hm) isName_longName,
      if_pos lt_size_longName]
  rw [outcome_load, snapshotAt, FileTree.read, place_overlong ht, hfollow]
  rfl

lemma read_overlong_ne_ok : t.read overlong ≠ .ok bytes := by
  intro hread
  obtain ⟨-, hfollow⟩ := place_eq_ok_iff.mp (read_eq_ok_iff.mp hread).1
  rw [names_overlong, follow_cons_eq_ok_iff, follow_cons_eq_ok_iff] at hfollow
  exact absurd (hfollow.2.2.2.1 isName_longName).1 (Nat.not_le.mpr lt_size_longName)

/-- An attempt to keep a snapshot makes the directory. -/
lemma find?_run_overlong (bytes : ByteArray) :
    (Attempt.run ⟨bytes, []⟩ overlong ⟨[], []⟩).2.tree.find? ["m"] = some .directory := by
  obtain ⟨d, hd, hparents⟩ : ∃ d : FaultyDisk, d = ⟨⟨[(["m"], .directory)], []⟩, [], false⟩ ∧
      FaultyDisk.run (makeParents overlong) ⟨⟨[], []⟩, [], false⟩ = (some (.ok ()), d) := by
    rw [makeParents, parent_overlong]
    exact ⟨_, rfl, rfl⟩
  have hm : d.tree.find? ["m"] = some .directory := by
    rw [hd]
    rfl
  have hcases : Attempted d.tree overlong bytes _ :=
    attempted_write fileName_overlong (.refl _ _) (by rw [hd])
  rw [run_of_makeParents (a := ⟨bytes, []⟩) hparents]
  generalize FaultyDisk.run _ _ = o at hcases
  cases hcases with
  | unmoved r d' hr hmoved hdiffers =>
    have hprefix : ["m"] <+: (site d.tree.working overlong).place := by
      rw [place_site _ fileName_overlong, leadsTo, names_overlong, hd, ite_self, walk_cons,
        walk_cons, advance_of_isName isName_m, advance_of_isName isName_longName]
      exact List.prefix_append ["m"] [String.ofList longName]
    rw [hdiffers.find?_of_prefix hprefix (Or.inl (by rw [hm]; rfl)), hm]
  | moved r d hr hmoved t₁ hdiffers hworking hfind hread => exact absurd hread read_overlong_ne_ok

/-- Making the way to a name that is too long changes what is loaded, though nothing was moved. -/
theorem load_changes_though_nothing_was_moved :
    ¬ ∀ (t : FileTree) (path : String) (attempts : List Attempt), t.Rooted →
      (Path.fileName path).isSome → ".." ∉ names path → (after path t attempts).last = none →
      (outcome (load path) (after path t attempts).tree).1 = (outcome (load path) t).1 := by
  intro h
  have hload := h ⟨[], []⟩ overlong [⟨⟨#[1]⟩, []⟩] rooted_nil fileName_overlong dots_overlong
  have hfollows := follows_after fileName_overlong dots_overlong ⟨[], []⟩ [⟨⟨#[1]⟩, []⟩]
  have hm := find?_run_overlong ⟨#[1]⟩
  rw [← tree_after_singleton] at hm
  generalize after overlong ⟨[], []⟩ [⟨⟨#[1]⟩, []⟩] = x at hload hfollows hm
  have hlast : x.last = none :=
    Option.eq_none_iff_forall_ne_some.mpr fun b hb => read_overlong_ne_ok (hfollows.moved b hb)
  rw [load_overlong_nil, load_overlong hfollows.working hm] at hload
  cases hload hlast

end SnapshotFile
end Deprecation
