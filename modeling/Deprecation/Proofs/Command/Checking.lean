/-
# Checking files

A check fails, so that a gate closes, when a rule that is an error matches in one of the files.
Which files these are is up to several parts of the program: an argument may be a file or a
directory, a directory is walked through and its files are chosen by their names, and a file that
cannot be read is passed over.  The walk only needs the names of the files, while reading needs a
whole path; so a file that was found may still be out of reach, and in a tree this is the only way
in which a text that was found is not checked.

This file says what an argument stands for without the walk, and shows that the outcome of a check
is decided by the files that were found, all but those whose path is too long.  It is about trees,
in which everything may be read.  Where the program has no access to a file, it passes over that
file as well, and where it may not look into a directory, it does not find what is below; then a
check can succeed although a rule that is an error matches in one of these files.
-/
import Mathlib
import Deprecation.Command.Run
import Deprecation.Proofs.Check
import Deprecation.Proofs.Files.Below
import Deprecation.Proofs.Regex.Leftmost
import Deprecation.Proofs.Report
import Deprecation.Proofs.Service.Start
import Deprecation.Proofs.Store.Resolution

namespace Deprecation

open FileTree

/-! ## Rules that match -/

/-- A rule matches somewhere in a text. -/
def Rule.OccursIn (r : Rule) (text : String) : Prop :=
  ∃ x, Regex.compile r.pattern = some x ∧
    ∃ k n, Regex.Search.Found x.program none text.toList k n

/-- A text has a finding that blocks when a rule that is an error matches in it. -/
lemma Store.Coherent.exists_error_iff {s : Store} (h : s.Coherent) (text : String) :
    (∃ g ∈ (s.check text).findings, g.severity = .error) ↔
      ∃ r ∈ s.activeViews, r.severity = .error ∧ r.OccursIn text := by
  obtain ⟨hviews, hown⟩ := Store.forall₂_activates_iff.mp h.forall₂_active
  rw [← hviews, Store.check, CheckResult.findings_ofFindings]
  constructor
  · rintro ⟨g, hg, hseverity⟩
    obtain ⟨a, ha, hg⟩ := List.mem_flatMap.mp hg
    obtain ⟨m, hm, rfl⟩ := List.mem_map.mp hg
    refine ⟨a.rule, List.mem_map_of_mem ha, hseverity, a.regex, hown a ha, ?_⟩
    exact Regex.Search.spans_ne_nil_iff.mp (List.ne_nil_of_mem hm)
  · rintro ⟨r, hr, hseverity, x, hx, hfound⟩
    obtain ⟨a, ha, rfl⟩ := List.mem_map.mp hr
    obtain rfl : a.regex = x := Option.some.inj ((hown a ha).symm.trans hx)
    obtain ⟨m, hm⟩ := List.exists_mem_of_ne_nil _ (Regex.Search.spans_ne_nil_iff.mpr hfound)
    exact ⟨_, List.mem_flatMap.mpr ⟨a, ha, List.mem_map_of_mem hm⟩, hseverity⟩

namespace Command

variable {t : FileTree} {s : Settings} {arg path : String}

/-! ## What an argument stands for -/

/-- The files that an argument stands for, with what is in them. -/
inductive Collects (t : FileTree) (s : Settings) (arg : String) :
    List (String × ByteArray) → Prop
  /-- A file that is named is taken whatever its extension. -/
  | named {bytes : ByteArray} (hread : t.read arg = .ok bytes) : Collects t s arg [(arg, bytes)]
  /-- Otherwise all files below are taken whose last names are chosen, in the order of their
  places. -/
  | below {found : List (Place × ByteArray)} (hread : ∀ bytes, t.read arg ≠ .ok bytes)
      (hordered : found.Pairwise fun f g => f.1 < g.1)
      (hmem : ∀ l bytes, (l, bytes) ∈ found ↔ ∃ p name, t.place arg = .ok p ∧
        t.find? (p ++ l) = some (.file bytes) ∧ l.getLast? = some name ∧ s.Chooses name) :
      Collects t s arg (found.map fun f => (pathBelow arg f.1, f.2))

lemma accepts_pathBelow_iff (ht : t.Grounded) {p l : Place} {bytes : ByteArray} {name : String}
    (hfile : t.find? (p ++ l) = some (.file bytes)) (hlast : l.getLast? = some name) :
    s.accepts (pathBelow path l) = true ↔ s.Chooses name := by
  have hl : p ++ l ≠ [] := by
    intro h
    rw [(List.append_eq_nil_iff.mp h).2] at hlast
    cases hlast
  have hmem := (ht.find?_eq_some_iff hl).mp hfile
  obtain ⟨hname, hslash⟩ :=
    ht.names _ hmem name (List.mem_append_right p (List.mem_of_getLast? hlast))
  exact Settings.accepts_iff (fileName_pathBelow path hlast hname hslash)

/-- What is collected for an argument. -/
def collected (t : FileTree) (s : Settings) (arg : String) : List (String × ByteArray) :=
  match t.read arg, t.place arg with
  | .ok bytes, _ => [(arg, bytes)]
  | .error _, .ok p =>
    ((t.filesBelow p).filter fun f => s.accepts (pathBelow arg f.1)).map fun f =>
      (pathBelow arg f.1, f.2)
  | .error _, .error _ => []

theorem collects_collected (ht : t.Grounded) (s : Settings) (arg : String) :
    Collects t s arg (collected t s arg) := by
  rw [collected]
  cases hread : t.read arg with
  | ok bytes => exact .named hread
  | error e =>
    have hnot : ∀ bytes, t.read arg ≠ .ok bytes := by
      rw [hread]
      simp
    cases hplace : t.place arg with
    | error e' => exact .below hnot List.Pairwise.nil (by simp [hplace])
    | ok p =>
      refine .below hnot ((ht.pairwise_filesBelow p).filter _) fun l bytes => ?_
      rw [List.mem_filter, ht.mem_filesBelow_iff]
      constructor
      · rintro ⟨⟨hl, hfile⟩, haccepts⟩
        obtain ⟨name, hlast⟩ := Option.isSome_iff_exists.mp (List.getLast?_isSome.mpr hl)
        refine ⟨p, name, hplace, hfile, hlast, ?_⟩
        exact (accepts_pathBelow_iff ht hfile hlast).mp haccepts
      · rintro ⟨q, name, hq, hfile, hlast, hchosen⟩
        obtain rfl : p = q := Except.ok.inj (hplace.symm.trans hq)
        refine ⟨⟨?_, hfile⟩, (accepts_pathBelow_iff ht hfile hlast).mpr hchosen⟩
        rintro rfl
        cases hlast

/-- What is collected is read, unless its path is too long. -/
lemma read_of_mem_collected (ht : t.Grounded) {f : String × ByteArray}
    (hf : f ∈ collected t s arg) :
    t.read f.1 = if maxPath < f.1.utf8ByteSize then .error .nameTooLong else .ok f.2 := by
  rw [collected] at hf
  split at hf
  next hread =>
    obtain rfl := List.mem_singleton.mp hf
    rw [hread, if_neg]
    obtain ⟨hplace, -⟩ := read_eq_ok_iff.mp hread
    exact not_lt.mpr (size_le_of_checkPath (place_eq_ok_iff.mp hplace).1)
  next hplace =>
    obtain ⟨⟨l, bytes⟩, hmem, rfl⟩ := List.mem_map.mp hf
    obtain ⟨hl, hfile⟩ := ht.mem_filesBelow_iff.mp (List.mem_filter.mp hmem).1
    exact ht.read_pathBelow hplace hl hfile
  · cases hf

/-! ## Walking and reading -/

lemma map_fst_collected (ht : t.Grounded) (s : Settings) (arg : String) :
    (collected t s arg).map Prod.fst
      = if t.isFile arg then [arg] else (t.files arg none).filter s.accepts := by
  rw [collected, isFile]
  cases hread : t.read arg with
  | ok bytes => rfl
  | error e =>
    cases hplace : t.place arg with
    | error e' =>
      rw [files, hplace]
      rfl
    | ok p =>
      dsimp only
      rw [if_neg Bool.false_ne_true, List.map_map]
      by_cases hthere : t.find? p = some .directory
      · rw [files_eq_map_filesBelow hplace hthere, List.filter_map]
        rfl
      · -- nothing is below what is no directory
        have hbelow : t.filesBelow p = [] := by
          refine List.eq_nil_iff_forall_not_mem.mpr fun f hf => hthere ?_
          obtain ⟨hl, hfile⟩ := ht.mem_filesBelow_iff.mp hf
          exact ht.rooted.find?_of_append hl (by rw [hfile]; rfl)
        have hnone : t.find? p = none := by
          rw [FileTree.read, hplace] at hread
          cases hfind : t.find? p with
          | none => rfl
          | some n =>
            cases n with
            | directory => exact absurd hfind hthere
            | file bytes => simp [bind, Except.bind, hfind] at hread
        rw [hbelow, files, hplace]
        dsimp only
        rw [hnone]
        rfl

lemma sources_apply (ht : t.Grounded) (s : Settings) (args : List String) :
    (sources s args : StateM FileTree (List String)) t
      = ((args.flatMap (collected t s)).map Prod.fst, t) := by
  induction args with
  | nil => rfl
  | cons arg args ih =>
    -- the rest of the walk comes after either branch
    have hbefore (here : List String) : (do
        let others ← sources s args
        pure (here ++ others) : StateM FileTree (List String)) t
        = (here ++ (args.flatMap (collected t s)).map Prod.fst, t) := by
      rw [bind_apply, ih]
      rfl
    rw [sources, bind_apply, List.flatMap_cons, List.map_append, map_fst_collected ht]
    show (if t.isFile arg = true then _ else _ : StateM FileTree (List String)) t = _
    split
    · exact hbefore [arg]
    · exact hbefore ((t.files arg none).filter s.accepts)

/-- The files that can be read, with their texts. -/
def readable (files : List (String × ByteArray)) : List (String × String) :=
  files.filterMap fun f =>
    if maxPath < f.1.utf8ByteSize then none
    else (String.fromUTF8? f.2).map fun text => (f.1, text)

lemma mem_readable_iff {files : List (String × ByteArray)} {text : String} :
    (path, text) ∈ readable files ↔ ∃ bytes, (path, bytes) ∈ files ∧
      path.utf8ByteSize ≤ maxPath ∧ String.fromUTF8? bytes = some text := by
  rw [readable, List.mem_filterMap]
  constructor
  · rintro ⟨⟨path', bytes⟩, hf, hsome⟩
    dsimp only at hsome
    split at hsome
    · cases hsome
    next hshort =>
      obtain ⟨text', htext, heq⟩ := Option.map_eq_some_iff.mp hsome
      obtain ⟨rfl, rfl⟩ := Prod.mk.inj heq
      exact ⟨bytes, hf, not_lt.mp hshort, htext⟩
  · rintro ⟨bytes, hf, hshort, htext⟩
    refine ⟨(path, bytes), hf, ?_⟩
    dsimp only
    rw [if_neg (not_lt.mpr hshort), htext]
    rfl

lemma results_apply (x : Service) {files : List (String × ByteArray)}
    (hfiles : ∀ f ∈ files, t.read f.1 =
      if maxPath < f.1.utf8ByteSize then .error .nameTooLong else .ok f.2) :
    (results x (files.map Prod.fst) : StateM FileTree (List (String × CheckResult))) t
      = ((readable files).map fun f => (f.1, x.check f.2), t) := by
  induction files with
  | nil => rfl
  | cons f files ih =>
    obtain ⟨hf, hfiles⟩ := List.forall_mem_cons.mp hfiles
    have hrest := ih hfiles
    have htext : (Disk.readText f.1 : ExceptT FileError (StateM FileTree) String).run t
        = (t.textAt f.1, t) := outcome_readText t f.1
    rw [List.map_cons, results, bind_apply, htext, textAt, hf, readable, List.filterMap_cons]
    by_cases hlong : maxPath < f.1.utf8ByteSize
    · rw [if_pos hlong, if_pos hlong]
      exact hrest
    · rw [if_neg hlong, if_neg hlong]
      dsimp only
      cases String.fromUTF8? f.2 with
      | none => exact hrest
      | some text =>
        show (do
          let others ← results x (files.map Prod.fst)
          pure ((f.1, x.check text) :: others) : StateM FileTree (List (String × CheckResult))) t
          = _
        rw [bind_apply, hrest]
        rfl

/-! ## The outcome of a check -/

/-- The report of a check. -/
def reported (t : FileTree) (x : Service) (clock : Clock) (args : List String) : Report :=
  (Report.empty clock.now.toReportText).addFiles
    ((readable (args.flatMap (collected t x.settings))).map fun f => (f.1, x.check f.2))

lemma covers_reported (t : FileTree) (x : Service) (clock : Clock) (args : List String) :
    (reported t x clock args).Covers
      ((readable (args.flatMap (collected t x.settings))).map fun f => (f.1, x.check f.2)) := by
  refine (Report.covers_empty _).addFiles fun f hf => ?_
  obtain ⟨g, -, rfl⟩ := List.mem_map.mp hf
  exact ⟨_, rfl⟩

/-- What a check comes to. -/
lemma runWith_check (ht : t.Grounded) (x : Service) (clock : Clock) (args : List String) :
    ∃ notes, (Invocation.runWith x clock (.check args none none) : StateM FileTree Progress) t =
      (.ended
        { shown := (reported t x clock args).shown
          blocking := (reported t x clock args).blocking
          notes }, t) := by
  have hresults := results_apply x fun f (hf : f ∈ args.flatMap (collected t x.settings)) => by
    obtain ⟨arg, -, hf⟩ := List.mem_flatMap.mp hf
    exact read_of_mem_collected ht hf
  obtain ⟨notes, hcheck⟩ : ∃ notes, (runCheck x clock args none none : StateM FileTree Outcome) t =
      ({ shown := (reported t x clock args).shown
         blocking := (reported t x clock args).blocking
         notes }, t) := by
    rw [runCheck, bind_apply, sources_apply ht, bind_apply, hresults]
    exact ⟨_, rfl⟩
  refine ⟨notes, ?_⟩
  have hmap (m : StateM FileTree Outcome) : (Progress.ended <$> m) t = (.ended (m t).1, (m t).2) :=
    rfl
  rw [Invocation.runWith, hmap, hcheck]

/-- **When a check fails.**  In a tree all files and directories may be read.  There a check without
output files ends, changes nothing, and shows a report.  It exits with 1 just when an active rule
that is an error matches in some collected file that is a text and whose path is not too long; and
the report covers the results of just these files. -/
theorem check_exits_with_one_iff (ht : t.Grounded) {x : Service} (hx : x.store.Coherent)
    (clock : Clock) (args : List String) :
    ∃ (parts : List (List (String × ByteArray))) (o : Outcome) (report : Report),
      List.Forall₂ (Collects t x.settings) args parts ∧
      (Invocation.runWith x clock (.check args none none) : StateM FileTree Progress) t
        = (.ended o, t) ∧
      o.failure = none ∧ o.shown = report.shown ∧
      (o.exitCode = 1 ↔ ∃ f ∈ readable parts.flatten, ∃ r ∈ x.store.activeViews,
        r.severity = .error ∧ r.OccursIn f.2) ∧
      report.Covers ((readable parts.flatten).map fun f => (f.1, x.check f.2)) := by
  obtain ⟨notes, hrun⟩ := runWith_check ht x clock args
  have hcovers := covers_reported t x clock args
  rw [List.flatMap_def] at hcovers
  refine ⟨args.map (collected t x.settings), _, reported t x clock args, ?_, hrun, rfl, rfl, ?_,
    hcovers⟩
  · rw [List.forall₂_map_right_iff]
    exact List.forall₂_same.mpr fun arg _ => collects_collected ht x.settings arg
  · have hexit : ∀ b : Bool, (if b then 1 else 0) = 1 ↔ b = true := by decide
    rw [Outcome.exitCode, Option.isSome_none, Bool.false_or, hexit, hcovers.blocking]
    simp only [List.mem_map, exists_exists_and_eq_and, Service.check, hx.exists_error_iff]

/-! ## A file within reach and out of it -/

/-- A directory with one file in it. -/
def waitFiles : FileTree :=
  ⟨[(["d"], .directory), (["d", "a.swift"], .file "x.wait()".toUTF8)], []⟩

/-- A service with a rule against waiting. -/
def waitService : Service := ⟨{}, Store.waitStore⟩

lemma grounded_waitFiles : waitFiles.Grounded := by
  have hnodes : ∀ x ∈ waitFiles.nodes, ∀ name ∈ x.1, name ∈ ["d", "a.swift"] := by
    rintro x (_ | ⟨_, _ | ⟨_, ⟨⟩⟩⟩) name hname
    · exact List.mem_cons.mpr (Or.inl (List.mem_singleton.mp hname))
    · exact hname
  have hnames : ∀ name ∈ ["d", "a.swift"],
      ((name ≠ "" ∧ name ≠ "." ∧ name ≠ "..") ∧ '/' ∉ name.toList) ∧
        name.utf8ByteSize ≤ maxName ∧ '\x00' ∉ name.toList := by decide
  refine ⟨⟨?_, ?_⟩, rooted_of_nodes ?_, ?_, ?_⟩
  · show [["d"], ["d", "a.swift"]].Nodup
    decide
  · exact fun x hx name hname => (hnames name (hnodes x hx name hname)).1
  · rintro x (_ | ⟨_, _ | ⟨_, ⟨⟩⟩⟩) <;> rfl
  · exact fun x hx name hname => (hnames name (hnodes x hx name hname)).2.1
  · exact fun x hx name hname => (hnames name (hnodes x hx name hname)).2.2

lemma coherent_waitService : waitService.store.Coherent :=
  Store.coherent_worldAt Store.handingMedia Store.handingOn 1 false

lemma chooses_swift : waitService.settings.Chooses "a.swift" :=
  ⟨['a'], "swift".toList, by decide, by decide, by decide, "swift", by decide, by decide⟩

/-- The rule against waiting is an error and matches in the file. -/
lemma waitRule_occurs : ∃ r ∈ waitService.store.activeViews, r.severity = .error ∧
    r.OccursIn "x.wait()" := by
  have hany : ((Regex.compile "wait").any fun x => !(x.spans "x.wait()".toList).isEmpty) = true := by
    cbv
  obtain ⟨x, hx, hspans⟩ := (Option.any_eq_true _ _).mp hany
  refine ⟨Store.waitRule.view, ?_, rfl, x, hx, Regex.Search.spans_ne_nil_iff.mp ?_⟩
  · refine List.mem_append_left _ (List.mem_map_of_mem ?_)
    rw [waitService, Store.statics_waitStore]
    exact List.mem_singleton_self _
  · simpa using hspans

/-- The check of the directory fails. -/
theorem waitFiles_block : waitFiles.Grounded ∧ waitService.store.Coherent ∧ ∃ o : Outcome,
    (Invocation.runWith waitService (.ofEpoch 0) (.check ["d"] none none) :
      StateM FileTree Progress) waitFiles = (.ended o, waitFiles) ∧ o.exitCode = 1 := by
  obtain ⟨parts, o, report, hparts, hrun, -, -, hexit, -⟩ :=
    check_exits_with_one_iff grounded_waitFiles coherent_waitService (.ofEpoch 0) ["d"]
  refine ⟨grounded_waitFiles, coherent_waitService, o, hrun, hexit.mpr ?_⟩
  refine ⟨("d/a.swift", "x.wait()"), mem_readable_iff.mpr ⟨"x.wait()".toUTF8, ?_, by decide, rfl⟩,
    waitRule_occurs⟩
  obtain ⟨part, rest, hpart, -, rfl⟩ := List.forall₂_cons_left_iff.mp hparts
  refine List.mem_flatten.mpr ⟨part, List.mem_cons_self, ?_⟩
  cases hpart with
  | named hread => cases hread
  | below hread hordered hmem =>
    refine List.mem_map.mpr ⟨(["a.swift"], _), (hmem _ _).mpr ?_, rfl⟩
    exact ⟨["d"], "a.swift", rfl, rfl, rfl, chooses_swift⟩

/-- The path of the directory with slashes behind it. -/
def slashed : Nat → String
  | 0 => "d"
  | n + 1 => slashed n ++ "/"

lemma size_slashed (n : Nat) : (slashed n).utf8ByteSize = n + 1 := by
  induction n with
  | zero => rfl
  | succ n ih =>
    rw [slashed, String.utf8ByteSize_append, ih]
    rfl

lemma place_slashed {n : Nat} (hn : n < maxPath) : waitFiles.place (slashed n) = .ok ["d"] := by
  induction n with
  | zero => rfl
  | succ n ih =>
    refine place_append_slash (ih (Nat.lt_of_succ_lt hn)) rfl ?_
    rw [size_slashed]
    exact hn

lemma collected_slashed {n : Nat} (hn : n < maxPath) :
    collected waitFiles waitService.settings (slashed n)
      = [(Path.join (slashed n) "a.swift", "x.wait()".toUTF8)] := by
  have haccepts : waitService.settings.accepts (pathBelow (slashed n) ["a.swift"]) = true :=
    (accepts_pathBelow_iff (p := ["d"]) grounded_waitFiles rfl rfl).mpr chooses_swift
  have hread : waitFiles.read (slashed n) = .error .isADirectory := by
    rw [FileTree.read, place_slashed hn]
    rfl
  have hbelow : waitFiles.filesBelow ["d"] = [(["a.swift"], "x.wait()".toUTF8)] := rfl
  rw [collected, hread, place_slashed hn]
  dsimp only
  rw [hbelow, List.filter_eq_self.mpr fun f hf => List.mem_singleton.mp hf ▸ haccepts]
  rfl

/-- With slashes behind its path, of which the directory takes as many as there is room for, the
same check succeeds: the file is found and is a text in which the rule matches, but it is out of
reach. -/
theorem slashed_waitFiles_pass : waitFiles.Grounded ∧ waitService.store.Coherent ∧
    (∃ part, Collects waitFiles waitService.settings (slashed 4090) part ∧
      ∃ f ∈ part, ∃ text, String.fromUTF8? f.2 = some text ∧
        ∃ r ∈ waitService.store.activeViews, r.severity = .error ∧ r.OccursIn text) ∧
    ∃ o : Outcome, (Invocation.runWith waitService (.ofEpoch 0)
      (.check [slashed 4090] none none) : StateM FileTree Progress) waitFiles
        = (.ended o, waitFiles) ∧ o.exitCode = 0 := by
  have hcollected := collected_slashed (n := 4090) (by decide)
  refine ⟨grounded_waitFiles, coherent_waitService,
    ⟨collected waitFiles waitService.settings (slashed 4090),
      collects_collected grounded_waitFiles _ _, ?_⟩, ?_⟩
  · rw [hcollected]
    exact ⟨_, List.mem_singleton_self _, "x.wait()", rfl, waitRule_occurs⟩
  · have hlong : maxPath < (Path.join (slashed 4090) "a.swift").utf8ByteSize := by
      refine lt_of_lt_of_le ?_ (Path.size_add_le_join _ (by decide))
      rw [size_slashed]
      decide
    have hreport : reported waitFiles waitService (.ofEpoch 0) [slashed 4090]
        = Report.empty (Clock.ofEpoch 0).now.toReportText := by
      rw [reported, List.flatMap_singleton, hcollected, readable, List.filterMap_cons_none]
      · rfl
      · dsimp only
        rw [if_pos hlong]
    obtain ⟨notes, hrun⟩ :=
      runWith_check grounded_waitFiles waitService (.ofEpoch 0) [slashed 4090]
    refine ⟨_, hrun, ?_⟩
    rw [hreport]
    rfl

end Command
end Deprecation
