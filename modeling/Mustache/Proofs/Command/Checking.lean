import Mustache.Command.Run
import Mustache.Proofs.Engine.Faithful
import Mustache.Proofs.Report

/-!
# Checking and listing agree

Checking goes through the keys that listing prints, with one engine for all of them. What it says of
a key is what a new engine would say: the cache that the keys share keeps to the folder, whatever
came of the keys before. So every key that is listed is judged once and in its turn, as long as no
key ends the checking with a fault that no user can mend. What is printed tells the keys and the
judgements, since no two reports are printed alike.
-/

namespace Mustache

namespace Fault

/-- The line of a template at which a fault shows. -/
def line? : Fault → Option Int
  | .malformed e => some e.line
  | _ => none

/-- What a report says of a fault; the name and the line of a template stand for themselves. -/
def reason : Fault → String
  | .malformed e => e.problem.message
  | fault => fault.message

end Fault

namespace Command

/-! ## One engine for all keys -/

section
variable {d : Disk} {settings : Settings} {e : Engine} {checked : Checked} {key : String}
  {rest : List String}

/-- What a new engine makes of a key. -/
def verdict (d : Disk) (settings : Settings) (key : String) : Except Fault Template :=
  ((engineFor settings).compileNamed d key).1.map Kept.template

/-- The engine of the settings keeps to their folder and their mode. -/
theorem keepsTo_engineFor (d : Disk) (settings : Settings) :
    (engineFor settings).KeepsTo d (.folder settings.folder) settings.strict :=
  ⟨rfl, rfl, .empty _⟩

/-- An engine in use makes of a key what a new one does. -/
theorem verdict_eq (he : e.KeepsTo d (.folder settings.folder) settings.strict) (key : String) :
    (e.compileNamed d key).1.map Kept.template = verdict d settings key :=
  (he.get ⟨.named, key⟩).1.trans ((keepsTo_engineFor d settings).get ⟨.named, key⟩).1.symm

/-- A template that compiles is listed as one that does. -/
theorem checkAll_cons_ok {kept : Kept} (h : (e.compileNamed d key).1 = .ok kept) :
    (checkAll d e checked (key :: rest)).result =
      (checkAll d (e.compileNamed d key).2.2 { checked with ok := checked.ok ++ [key] }
        rest).result := by
  rw [checkAll]
  dsimp only
  rw [h]

/-- A template that a user can mend is listed with its fault. -/
theorem checkAll_cons_told {fault : Fault} (h : (e.compileNamed d key).1 = .error fault)
    (huser : fault.isUserFault = true) :
    (checkAll d e checked (key :: rest)).result =
      (checkAll d (e.compileNamed d key).2.2
        { checked with errors := checked.errors ++ [(key, fault.line?, fault.reason)] }
        rest).result := by
  rw [checkAll]
  dsimp only
  rw [h]
  cases fault with
  | malformed e => rfl
  | _ =>
    dsimp only
    rw [if_pos huser]
    rfl

/-- Any other fault ends the checking. -/
theorem checkAll_cons_fault {fault : Fault} (h : (e.compileNamed d key).1 = .error fault)
    (huser : fault.isUserFault = false) :
    (checkAll d e checked (key :: rest)).result = .error fault := by
  rw [checkAll]
  dsimp only
  rw [h]
  cases fault with
  | malformed e => cases huser
  | _ =>
    dsimp only
    rw [if_neg (Bool.eq_false_iff.1 huser)]

/-- Whether a new engine has a template for a key. -/
def succeeds (d : Disk) (settings : Settings) (key : String) : Bool :=
  (verdict d settings key).isOk

/-- What is reported of a key for which a new engine has no template. -/
def complaint? (d : Disk) (settings : Settings) (key : String) :
    Option (String × Option Int × String) :=
  match verdict d settings key with
  | .ok _ => none
  | .error fault => some (key, fault.line?, fault.reason)

/-- What new engines make of all keys. -/
def judged (d : Disk) (settings : Settings) (keys : List String) : Checked :=
  ⟨keys.filter (succeeds d settings), keys.filterMap (complaint? d settings)⟩

/-- Checking gives the verdicts on all keys in their order, or it ends with a fault that no user can
mend. -/
theorem checkAll_result (he : e.KeepsTo d (.folder settings.folder) settings.strict)
    (checked : Checked) (keys : List String) :
    (checkAll d e checked keys).result =
        .ok ⟨checked.ok ++ (judged d settings keys).ok,
          checked.errors ++ (judged d settings keys).errors⟩ ∨
      ∃ fault, (checkAll d e checked keys).result = .error fault ∧ fault.isUserFault = false := by
  unfold judged
  induction keys generalizing e checked with
  | nil =>
    refine .inl ?_
    rw [List.filter_nil, List.filterMap_nil, List.append_nil, List.append_nil]
    rfl
  | cons key rest ih =>
    have hverdict := verdict_eq he key
    -- the engine keeps to its source, so the next key is judged as by a fresh one
    have hnext : (e.compileNamed d key).2.2.KeepsTo d (.folder settings.folder) settings.strict :=
      (he.get ⟨.named, key⟩).2
    cases hcompiled : (e.compileNamed d key).1 with
    | ok kept =>
      have hok : verdict d settings key = .ok kept.template := by rw [← hverdict, hcompiled]; rfl
      have hsucceeds : succeeds d settings key = true := by rw [succeeds, hok]; rfl
      have hnone : complaint? d settings key = none := by rw [complaint?, hok]
      rw [checkAll_cons_ok hcompiled, List.filter_cons_of_pos hsucceeds,
        List.filterMap_cons_none hnone]
      simpa only [List.append_assoc, List.singleton_append] using
        ih hnext { checked with ok := checked.ok ++ [key] }
    | error fault =>
      have herror : verdict d settings key = .error fault := by rw [← hverdict, hcompiled]; rfl
      cases huser : fault.isUserFault with
      -- this fault is no entry of the list: it ends the checking
      | false => exact .inr ⟨fault, checkAll_cons_fault hcompiled huser, huser⟩
      | true =>
        have hfails : ¬succeeds d settings key = true := by
          rw [succeeds, herror]
          exact Bool.false_ne_true
        have hsome : complaint? d settings key = some (key, fault.line?, fault.reason) := by
          rw [complaint?, herror]
        rw [checkAll_cons_told hcompiled huser, List.filter_cons_of_neg hfails,
          List.filterMap_cons_some hsome]
        simpa only [List.append_assoc, List.singleton_append] using
          ih hnext { checked with errors := checked.errors ++ [(key, fault.line?, fault.reason)] }

end

/-! ## Judging keys -/

/-- The keys are judged as new engines would judge them, each once and in their order. -/
structure Judges (d : Disk) (settings : Settings) (keys : List String) (checked : Checked) :
    Prop where
  together : (checked.ok ++ checked.errors.map Prod.fst).Perm keys
  disjoint : ∀ key ∈ checked.ok, key ∉ checked.errors.map Prod.fst
  ok_order : checked.ok.Sublist keys
  errors_order : (checked.errors.map Prod.fst).Sublist keys
  ok_iff : ∀ key ∈ keys, key ∈ checked.ok ↔
    ∃ kept, ((engineFor settings).compileNamed d key).1 = .ok kept
  told : ∀ entry ∈ checked.errors, ∃ fault,
    ((engineFor settings).compileNamed d entry.1).1 = .error fault ∧
      entry.2 = (fault.line?, fault.reason)

section
variable {d : Disk} {settings : Settings}

/-- A key is fine exactly when a fresh engine compiles it. -/
theorem succeeds_iff {key : String} :
    succeeds d settings key = true ↔
      ∃ kept, ((engineFor settings).compileNamed d key).1 = .ok kept := by
  unfold succeeds verdict
  cases ((engineFor settings).compileNamed d key).1 with
  | ok kept => exact iff_of_true rfl ⟨kept, rfl⟩
  | error fault => exact iff_of_false Bool.false_ne_true nofun

/-- The keys that are complained of are those that do not succeed. -/
theorem map_complaint? (d : Disk) (settings : Settings) (keys : List String) :
    (keys.filterMap (complaint? d settings)).map Prod.fst =
      keys.filter fun key => !succeeds d settings key := by
  have hkey (key : String) : (complaint? d settings key).map Prod.fst =
      if !succeeds d settings key then some key else none := by
    unfold complaint? succeeds
    cases verdict d settings key with
    | ok t => rfl
    | error fault => rfl
  rw [List.map_filterMap, ← List.filterMap_eq_filter]
  refine List.filterMap_congr fun key _ => ?_
  rw [hkey, Option.guard]

/-- A complaint gives line and reason of the fault that compiling ends in. -/
theorem complaint?_eq_some {key : String} {entry : String × Option Int × String}
    (h : complaint? d settings key = some entry) :
    ∃ fault, ((engineFor settings).compileNamed d entry.1).1 = .error fault ∧
      entry.2 = (fault.line?, fault.reason) := by
  unfold complaint? at h
  split at h
  · cases h
  · next fault hfault =>
    obtain rfl := Option.some.inj h
    exact ⟨fault, map_eq_error_iff.1 hfault, rfl⟩

/-- The verdict on some keys splits them in the order in which they stand. -/
theorem judges (d : Disk) (settings : Settings) (keys : List String) :
    Judges d settings keys (judged d settings keys) where
  together := by
    rw [judged, map_complaint?]
    exact List.filter_append_perm _ keys
  disjoint key hok herror := by
    rw [judged, map_complaint?, List.mem_filter] at herror
    rw [(List.mem_filter.1 hok).2] at herror
    exact Bool.false_ne_true herror.2
  ok_order := List.filter_sublist
  errors_order := by
    rw [judged, map_complaint?]
    exact List.filter_sublist
  ok_iff key hkey := by
    rw [← succeeds_iff, judged, List.mem_filter]
    exact ⟨And.right, fun h => ⟨hkey, h⟩⟩
  told entry hentry := by
    obtain ⟨key, -, hcomplaint⟩ := List.mem_filterMap.1 hentry
    exact complaint?_eq_some hcomplaint

end

/-! ## Printing -/

/-- What is printed of checked templates tells what they came to. -/
theorem Checked.report_injective : Function.Injective Checked.report := by
  have hline : Function.Injective fun line : Option Int => (line.map Report.number).getD .null := by
    intro line line' h
    cases line with
    | none =>
      cases line' with
      | none => rfl
      | some n => cases h
    | some n =>
      cases line' with
      | none => cases h
      | some n' => rw [Report.number.inj h]
  intro c c' h
  obtain ⟨ok, errors⟩ := c
  obtain ⟨ok', errors'⟩ := c'
  simp only [Checked.report, Report.object.injEq, List.cons.injEq, Prod.mk.injEq, Report.list.injEq,
    true_and, and_true] at h
  have hok : ok = ok' := List.map_injective_iff.2 (fun _ _ => Report.text.inj) h.1
  have herrors : errors = errors' := by
    refine List.map_injective_iff.2 (fun a b hab => ?_) h.2
    obtain ⟨key, line, message⟩ := a
    obtain ⟨key', line', message'⟩ := b
    simp only [Report.object.injEq, List.cons.injEq, Prod.mk.injEq, Report.text.injEq, true_and,
      and_true] at hab
    rw [hab.1, hline hab.2.1, hab.2.2]
  rw [hok, herrors]

/-- A report is printed, or that it cannot be encoded is no fault that a user can mend. -/
theorem printReport_cases (s : Surroundings) (report : Report) (status : Nat) :
    (printReport s report status).out = report.print ∧
        (printReport s report status).result = .ok status ∨
      ∃ fault, (printReport s report status).result = .error fault ∧ fault.isUserFault = false := by
  rw [printReport, Sink.write_without (s := s.stdout) rfl]
  cases s.objection report.print with
  | none => exact .inl ⟨by simp [Surroundings.stdout, Sink.text, Sink.chunks], rfl⟩
  | some words => exact .inr ⟨.failure ⟨.unencodable, words⟩, rfl, rfl⟩

/-! ## The two commands -/

/-- No user can mend what keeps a folder from being listed. -/
theorem not_isUserFault_of_list {f : Folder} {reader : PatternReader} {d : Disk}
    {patterns : Option (List String)} {fault : Fault}
    (h : f.list reader d patterns = .error fault) :
    fault.isUserFault = false := by
  unfold Folder.list at h
  split at h
  · cases h
    rfl
  · split at h
    · cases h
      rfl
    · cases h

/-- How an invocation ends that ends with a status, and what it prints. -/
theorem run_of_ne_fault {i : Invocation} {s : Surroundings}
    (h : ∀ fault, (i.run s).ending ≠ .fault fault) :
    (i.run s).out = (i.perform s).1.out ∧
      ((∃ n, (i.perform s).1.result = .ok n ∧ (i.run s).ending = .status n) ∨
        ∃ fault, (i.perform s).1.result = .error fault ∧ fault.isUserFault = true ∧
          (i.run s).ending = .status 2) := by
  unfold Invocation.run at h ⊢
  cases hlog : Log.setUp i.verbose s.environment with
  | error fault =>
    -- a log level that is none is reported before anything is done
    rw [hlog] at h
    exact absurd rfl (h fault)
  | ok log =>
    rw [hlog] at h
    dsimp only at h ⊢
    refine ⟨rfl, ?_⟩
    cases hresult : (i.perform s).1.result with
    | ok n => exact .inl ⟨n, rfl, rfl⟩
    | error fault =>
      rw [hresult] at h
      cases huser : fault.isUserFault with
      | true => exact .inr ⟨fault, rfl, huser, by simp only [huser, if_true]⟩
      | false =>
        refine absurd ?_ (h fault)
        simp only [huser, Bool.false_eq_true, if_false]

section
variable {s : Surroundings} {root : Option String} {patterns : List String} {settings : Settings}
  {verbose : Bool}

/-- An invocation whose settings are refused prints nothing. -/
theorem run_of_refused {i : Invocation} (h : ∀ fault, (i.run s).ending ≠ .fault fault)
    {fault : Fault} (hsettings : settingsFor s i.root = .error fault) :
    (i.run s).ending = .status 2 ∧ (i.run s).out = "" := by
  obtain ⟨hout, hend⟩ := run_of_ne_fault h
  rw [Invocation.perform, hsettings] at hout hend
  obtain ⟨_, hresult, -⟩ | ⟨_, -, -, hstatus⟩ := hend
  · cases hresult
  · exact ⟨hstatus, hout⟩

omit patterns settings verbose root in
/-- A command that comes to printing a report, and ends with no fault, has printed it. -/
theorem ended_of_printReport {i : Invocation} {report : Report} {status : Nat}
    (hout : (i.run s).out = (printReport s report status).out)
    (hend : (∃ n, (printReport s report status).result = .ok n ∧ (i.run s).ending = .status n) ∨
      ∃ fault, (printReport s report status).result = .error fault ∧ fault.isUserFault = true ∧
        (i.run s).ending = .status 2) :
    (i.run s).out = report.print ∧ (i.run s).ending = .status status := by
  rcases printReport_cases s report status with ⟨hprinted, hresult⟩ | ⟨fault, hresult, hfault⟩
  · rw [hresult] at hend
    obtain ⟨_, hstatus, hending⟩ | ⟨_, hstatus, -⟩ := hend
    · exact ⟨hout.trans hprinted, Except.ok.inj hstatus ▸ hending⟩
    · cases hstatus
  · rw [hresult] at hend
    obtain ⟨_, hstatus, -⟩ | ⟨_, hstatus, huser, -⟩ := hend
    · cases hstatus
    · obtain rfl := Except.error.inj hstatus
      exact absurd huser (Bool.eq_false_iff.1 hfault)

/-- Listing prints the keys. -/
theorem run_list
    (h : ∀ fault, (Invocation.run ⟨verbose, root, .list patterns⟩ s).ending ≠ .fault fault)
    (hsettings : settingsFor s root = .ok settings) :
    let list := Invocation.run ⟨verbose, root, .list patterns⟩ s
    ∃ keys, keysFor s settings patterns = .ok keys ∧ list.ending = .status 0 ∧
      list.out = (Report.list (keys.map .text)).print := by
  have hperform : Invocation.perform ⟨verbose, root, .list patterns⟩ s =
      runList s settings patterns := by rw [Invocation.perform, hsettings]
  obtain ⟨hout, hend⟩ := run_of_ne_fault h
  rw [hperform, runList] at hout hend
  cases hkeys : keysFor s settings patterns with
  | error fault =>
    rw [hkeys] at hend
    obtain ⟨_, hresult, -⟩ | ⟨_, hresult, huser, -⟩ := hend
    · cases hresult
    · obtain rfl := Except.error.inj hresult
      exact absurd huser (Bool.eq_false_iff.1 (not_isUserFault_of_list hkeys))
  | ok keys =>
    rw [hkeys] at hout hend
    obtain ⟨hprinted, hstatus⟩ := ended_of_printReport hout hend
    exact ⟨keys, rfl, hstatus, hprinted⟩

/-- Checking prints what new engines make of the keys, and its status tells of complaints. -/
theorem run_check
    (h : ∀ fault, (Invocation.run ⟨verbose, root, .check patterns⟩ s).ending ≠ .fault fault)
    (hsettings : settingsFor s root = .ok settings) {keys : List String}
    (hkeys : keysFor s settings patterns = .ok keys) :
    let check := Invocation.run ⟨verbose, root, .check patterns⟩ s
    check.out = (judged s.disk settings keys).report.print ∧
      check.ending = .status (if (judged s.disk settings keys).errors = [] then 0 else 2) := by
  have hperform : Invocation.perform ⟨verbose, root, .check patterns⟩ s =
      runCheck s settings patterns := by rw [Invocation.perform, hsettings]
  obtain ⟨hout, hend⟩ := run_of_ne_fault h
  rw [hperform, runCheck, hkeys] at hout hend
  dsimp only at hout hend
  rcases checkAll_result (keepsTo_engineFor s.disk settings) {} keys with
    hresult | ⟨fault, hresult, hfault⟩
  · rw [hresult] at hout hend
    obtain ⟨hprinted, hstatus⟩ := ended_of_printReport hout hend
    simp only [List.isEmpty_iff, List.nil_append] at hprinted hstatus
    exact ⟨hprinted, hstatus⟩
  · rw [hresult] at hend
    obtain ⟨_, hstatus, -⟩ | ⟨_, hstatus, huser, -⟩ := hend
    · cases hstatus
    · obtain rfl := Except.error.inj hstatus
      exact absurd huser (Bool.eq_false_iff.1 hfault)

end

/-- Checking and listing with the same arguments, if neither ends with a fault that no user can
mend: either both are refused for the settings, or checking judges exactly the keys that listing
prints, and its status tells whether it has something to complain of. What they print could be
printed of no other keys and of no other judgements. -/
theorem check_agrees_with_list {s : Surroundings} {root : Option String} {patterns : List String}
    (verbose verbose' : Bool)
    (hcheck : ∀ fault,
      (Invocation.run ⟨verbose, root, .check patterns⟩ s).ending ≠ .fault fault)
    (hlist : ∀ fault,
      (Invocation.run ⟨verbose', root, .list patterns⟩ s).ending ≠ .fault fault) :
    let check := Invocation.run ⟨verbose, root, .check patterns⟩ s
    let list := Invocation.run ⟨verbose', root, .list patterns⟩ s
    (∃ fault, settingsFor s root = .error fault ∧ check.ending = .status 2 ∧ check.out = "" ∧
        list.ending = .status 2 ∧ list.out = "") ∨
      ∃ settings keys checked, settingsFor s root = .ok settings ∧
        list.ending = .status 0 ∧ list.out = (Report.list (keys.map .text)).print ∧
        (∀ keys', list.out = (Report.list (keys'.map .text)).print → keys' = keys) ∧
        check.out = checked.report.print ∧
        (∀ checked', check.out = checked'.report.print → checked' = checked) ∧
        Judges s.disk settings keys checked ∧
        check.ending = .status (if checked.errors = [] then 0 else 2) := by
  intro check list
  cases hsettings : settingsFor s root with
  -- settings that are refused end both commands alike
  | error fault =>
    obtain ⟨hcheckEnd, hcheckOut⟩ := run_of_refused hcheck hsettings
    obtain ⟨hlistEnd, hlistOut⟩ := run_of_refused hlist hsettings
    exact .inl ⟨fault, rfl, hcheckEnd, hcheckOut, hlistEnd, hlistOut⟩
  | ok settings =>
    obtain ⟨keys, hkeys, hlistEnd, hlistOut⟩ := run_list hlist hsettings
    obtain ⟨hcheckOut, hcheckEnd⟩ := run_check hcheck hsettings hkeys
    refine .inr ⟨settings, keys, judged s.disk settings keys, rfl, hlistEnd, hlistOut,
      fun keys' h => ?_, hcheckOut, fun checked' h => ?_, judges s.disk settings keys, hcheckEnd⟩
    -- what is printed tells the keys, and the report
    · have hlists := Report.list.inj (Report.print_injective (h.symm.trans hlistOut))
      exact List.map_injective_iff.2 (fun _ _ => Report.text.inj) hlists
    · exact Checked.report_injective (Report.print_injective (h.symm.trans hcheckOut))

/-- A directory with a malformed template; there is no document, and no pattern is asked for. -/
def oneMalformed : Surroundings where
  libraries := ⟨fun _ => .ok .null, fun _ => .error .incomplete⟩
  disk := ⟨.folder [("b.mustache", .file [123, 123])], []⟩
  environment := []
  stdin := ""

/-- The malformed template is complained of, with its line. -/
theorem check_agrees_with_list_malformed :
    ∃ settings keys checked, settingsFor oneMalformed none = .ok settings ∧
      Judges oneMalformed.disk settings keys checked ∧
      (Invocation.run ⟨false, none, .check []⟩ oneMalformed).ending =
        .status (if checked.errors = [] then 0 else 2) ∧ checked.errors ≠ [] := by
  have hsettings : settingsFor oneMalformed none = .ok (Settings.ofRoot ⟨1, []⟩) := rfl
  have hkeys : keysFor oneMalformed (Settings.ofRoot ⟨1, []⟩) [] = .ok ["b.mustache"] := by
    decide +kernel
  have hload : ((Source.folder (Settings.ofRoot ⟨1, []⟩).folder).load oneMalformed.disk
      "b.mustache").map Loaded.text = .ok "\x7b\x7b" := by decide +kernel
  have hcompile : Template.compile "\x7b\x7b" "b.mustache" =
      .error ⟨.unclosedTag 1, 1, "b.mustache"⟩ := by with_unfolding_all rfl
  -- the one template that is listed does not compile
  have hverdict : verdict oneMalformed.disk (Settings.ofRoot ⟨1, []⟩) "b.mustache" =
      .error (.malformed ⟨.unclosedTag 1, 1, "b.mustache"⟩) := by
    refine ((keepsTo_engineFor _ _).get ⟨.named, "b.mustache"⟩).1.trans ?_
    rw [made_of_load_ok hload, hcompile]
    rfl
  -- neither command ends in a fault, so the theorem applies
  have hchecked : (checkAll oneMalformed.disk (engineFor (Settings.ofRoot ⟨1, []⟩)) {}
      ["b.mustache"]).result =
        .ok ⟨[], [("b.mustache", some 1, (SyntaxProblem.unclosedTag 1).message)]⟩ :=
    checkAll_cons_told (map_eq_error_iff.1 hverdict) rfl
  have hcheck : (Invocation.run ⟨false, none, .check []⟩ oneMalformed).ending = .status 2 := by
    have hlog : Log.setUp false oneMalformed.environment = .ok ⟨none⟩ := rfl
    simp only [Invocation.run, hlog, Invocation.perform, hsettings, runCheck, hkeys, hchecked]
    rfl
  have hlist : (Invocation.run ⟨false, none, .list []⟩ oneMalformed).ending = .status 0 := by
    decide +kernel
  obtain ⟨fault, -, -, -, hrefused, -⟩ |
      ⟨settings, keys, checked, hsettings, -, -, -, -, -, hjudges, hend⟩ :=
    check_agrees_with_list false false (fun _ h => nomatch hcheck.symm.trans h)
      (fun _ h => nomatch hlist.symm.trans h)
  · exact nomatch hlist.symm.trans hrefused
  · refine ⟨settings, keys, checked, hsettings, hjudges, hend, fun hnone => ?_⟩
    rw [hcheck, if_pos hnone] at hend
    exact nomatch hend

end Command

end Mustache
