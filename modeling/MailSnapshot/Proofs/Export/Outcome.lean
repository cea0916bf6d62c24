import MailSnapshot.Export
import MailSnapshot.Proofs.FileTree.Copying
import MailSnapshot.Proofs.Store.Run

/-! What an export comes to: the two passes on a copy of the source, or nothing. -/

namespace MailSnapshot.Export
open FileOp (left Holds)
variable {settings : Settings} {r : ExportRequest} {t u : FileTree} {p q : Place} {n : Node}
  {s v : Snapshot} {e : Failure} {preset : Preset} {projects : List String}
  {scrubbing : Option Preset}

/-- Both passes on one open snapshot. -/
def passesOn (projects : List String) (scrubbing : Option Preset) :
    Pass (ScopeResult × Option ScrubSummary) := do
  let scope ← Scope.apply projects
  match scrubbing with
  | some preset => return (scope, some (← Scrub.apply preset))
  | none => return (scope, none)

/-- The passes that a request asks for. -/
def requested (settings : Settings) (r : ExportRequest) (preset : Preset) :
    Pass (ScopeResult × Option ScrubSummary) :=
  passesOn (settings.chooseProjects r.projects)
    (if settings.scrub && !r.noScrub then some preset else none)

/-- On a file the passes come to what they come to on the snapshot in it. -/
theorem passes_run (h : Holds t r.output q s) : passes r projects scrubbing t =
    match passesOn projects scrubbing .readWrite s with
    | .ok a v => .ok a (t.put q (.file (.snapshot v)))
    | .error e v => .error e (t.put q (.file (.snapshot v))) := by
  have hscope : FileOp.scope r.output projects t = _ := FileOp.onSnapshot_run h
  unfold passes passesOn
  rw [FileOp.bind_run, hscope, Pass.bind_run]
  cases Scope.apply projects .readWrite s with
  | error e v => rfl
  | ok scope v =>
    cases scrubbing with
    | none => rfl
    | some preset =>
      have hscrub : FileOp.scrub r.output preset (t.put q (.file (.snapshot v))) = _ :=
        FileOp.onSnapshot_run h.put
      simp only
      rw [FileOp.bind_run, hscrub, Pass.bind_run]
      cases Scrub.apply preset .readWrite v with
      | error e w =>
        simp only [FileTree.put_put]
      | ok summary w =>
        simp only [FileTree.put_put]
        rfl

/-- A path that leads to nothing has nothing to run the passes on. -/
theorem orRemove_passes_of_missing (h : t.has r.output = false) :
    orRemove r.output (passes r projects scrubbing) t = .error (.snapshotNotFound r.output) t := by
  have hfails : passes r projects scrubbing t = .error (.snapshotNotFound r.output) t := by
    unfold passes FileOp.scope FileOp.onSnapshot
    rw [FileOp.bind_run, FileOp.bind_run_of_ok (FileOp.look_run _)]
    simp only [h]
    rfl
  rw [orRemove, hfails]
  obtain ⟨p, c, hfind, -⟩ | ⟨-, e, hremove⟩ := FileOp.removeFile_cases r.output t
  · have hhas : t.has r.output = true := FileTree.has_iff.2 ⟨p, _, hfind⟩
    rw [h] at hhas
    cases hhas
  · simp only [hremove]

theorem orRemove_passes (h : Holds t r.output q s) :
    orRemove r.output (passes r projects scrubbing) t =
      match passesOn projects scrubbing .readWrite s with
      | .ok a v => .ok a (t.put q (.file (.snapshot v)))
      | .error e v => .error e ((t.put q (.file (.snapshot v))).erase q) := by
  rw [orRemove, passes_run h]
  cases passesOn projects scrubbing .readWrite s with
  | ok a v => rfl
  | error e v =>
    have hremove := FileOp.removeFile_of_find? (h.put (v := v)).found
    simp only [hremove]

/-- All that an export does before the passes. -/
def copied (settings : Settings) (r : ExportRequest) : FileOp Preset := do
  let preset ← FileOp.ofExcept (settings.choosePreset r.preset)
  check r
  if ← FileOp.look (·.has r.output) then FileOp.removeFile r.output
  FileOp.copySnapshot r.source r.output
  return preset

/-- The passes on the copy, and the report on them. -/
def finish (settings : Settings) (r : ExportRequest) (preset : Preset) : FileOp ExportReport := do
  let (scope, scrub) ← orRemove r.output <|
    passes r (settings.chooseProjects r.projects)
      (if settings.scrub && !r.noScrub then some preset else none)
  return ⟨r.output, scope, scrub⟩

theorem run_eq : run settings r = copied settings r >>= finish settings r := by
  unfold run copied finish
  simp only [bind_assoc]
  congr 1
  funext preset
  congr 1
  funext _
  congr 1
  funext there
  cases there
  · simp only [Bool.false_eq_true, if_false, bind_assoc, pure_bind]
  · simp only [if_true, bind_assoc, pure_bind]

theorem check_run : check r t =
    if t.has r.source = false then .error (.snapshotNotFound r.source) t
    else if t.sameFile r.source r.output then .error (.badArgument .outputIsSource) t
    else if t.has r.output && !r.force then .error (.badArgument (.outputExists r.output)) t
    else .ok () t := by
  unfold check
  rw [FileOp.bind_run_of_ok (FileOp.look_run _)]
  cases t.has r.source with
  | false => rfl
  | true =>
    simp only [if_true]
    rw [FileOp.bind_run_of_ok (FileOp.look_run _)]
    cases t.sameFile r.source r.output with
    | true => rfl
    | false =>
      simp only [Bool.false_eq_true, if_false]
      rw [FileOp.bind_run_of_ok (FileOp.look_run _)]
      cases t.has r.output with
      | false => rfl
      | true => cases r.force <;> rfl

/-- Why an export stops before it changes anything. -/
inductive Stops (settings : Settings) (r : ExportRequest) (t : FileTree) : Failure → Prop where
  | invalidPreset {e : Failure} (h : settings.choosePreset r.preset = .error e) :
    Stops settings r t e
  | noSource {preset : Preset} (hpreset : settings.choosePreset r.preset = .ok preset)
    (h : t.has r.source = false) : Stops settings r t (.snapshotNotFound r.source)
  | outputIsSource {preset : Preset} (hpreset : settings.choosePreset r.preset = .ok preset)
    (h : t.sameFile r.source r.output = true) :
    Stops settings r t (.badArgument .outputIsSource)
  | outputExists {preset : Preset} (hpreset : settings.choosePreset r.preset = .ok preset)
    (hsource : t.has r.source = true) (hother : t.sameFile r.source r.output = false)
    (h : t.has r.output = true) (hforce : r.force = false) :
    Stops settings r t (.badArgument (.outputExists r.output))

theorem sameFile_of_find? {a b : String} {m : Node} (ha : t.find? a = some (p, n))
    (hb : t.find? b = some (q, m)) : t.sameFile a b = decide (p = q) := by
  rw [FileTree.sameFile, ha, hb]

theorem has_of_sameFile {a b : String} (h : t.sameFile a b = true) : t.has a = true := by
  rw [FileTree.has]
  cases hfind : t.find? a with
  | some found => rfl
  | none =>
    rw [FileTree.sameFile, hfind] at h
    cases h

section Copied
variable (hpreset : settings.choosePreset r.preset = .ok preset)
include hpreset

theorem copied_of_check_error (h : check r t = .error e t) :
    copied settings r t = .error e t := by
  unfold copied
  rw [hpreset, FileOp.bind_run_of_ok (show FileOp.ofExcept (.ok preset) t = .ok preset t from rfl)]
  exact FileOp.bind_run_of_error h

theorem copied_of_check_ok (h : check r t = .ok () t) : copied settings r t = (do
    if ← FileOp.look (·.has r.output) then FileOp.removeFile r.output
    FileOp.copySnapshot r.source r.output
    return preset : FileOp Preset) t := by
  unfold copied
  rw [hpreset, FileOp.bind_run_of_ok (show FileOp.ofExcept (.ok preset) t = .ok preset t from rfl)]
  exact FileOp.bind_run_of_ok h

end Copied

theorem copied_of_stops (h : Stops settings r t e) : copied settings r t = .error e t := by
  cases h with
  | invalidPreset h =>
    unfold copied
    rw [h]
    rfl
  | noSource hpreset h =>
    refine copied_of_check_error hpreset ?_
    rw [check_run, if_pos h]
  | outputIsSource hpreset h =>
    refine copied_of_check_error hpreset ?_
    rw [check_run, has_of_sameFile h, if_neg (by decide), if_pos h]
  | outputExists hpreset hsource hother h hforce =>
    refine copied_of_check_error hpreset ?_
    rw [check_run, hsource, hother, h, hforce]
    rfl

section Copying
variable (hsource : IsPath r.source) (hdisk : r.source ≠ ":memory:") (houtput : IsPath r.output)
  (hfound : t.find? r.source = some (p, n))
include hsource hdisk houtput hfound

/-- Once the way is free the copy is made. -/
theorem copied_of_free (preset : Preset) :
    (∃ e u, (do FileOp.copySnapshot r.source r.output; return preset : FileOp Preset) t =
        .error e u ∧ u.find? r.source = some (p, n)) ∨
    ∃ u, (do FileOp.copySnapshot r.source r.output; return preset : FileOp Preset) t =
        .ok preset u ∧ u.find? r.source = some (p, n) ∧
      (u.has r.output = true → ∃ c s q, n = .file c ∧ c.snapshot? = some s ∧ q ≠ p ∧
        Holds u r.output q s) := by
  obtain ⟨e, u, hrun, hkept⟩ | ⟨u, hrun, hcopy⟩ :=
    FileOp.copySnapshot_cases hsource hdisk houtput hfound
  · exact .inl ⟨e, u, FileOp.bind_run_of_error hrun, hkept⟩
  · exact .inr ⟨u, FileOp.bind_run_of_ok hrun, hcopy⟩

/-- Before the passes the source is left alone. Where the copy is made and its path leads to
something after it, it is a copy of the source in another place. -/
theorem copied_cases (settings : Settings) :
    (∃ e u, copied settings r t = .error e u ∧ u.find? r.source = some (p, n)) ∨
    ∃ preset u, settings.choosePreset r.preset = .ok preset ∧
      copied settings r t = .ok preset u ∧ u.find? r.source = some (p, n) ∧
      (u.has r.output = true → ∃ c s q, n = .file c ∧ c.snapshot? = some s ∧ q ≠ p ∧
        Holds u r.output q s) := by
  cases hpreset : settings.choosePreset r.preset with
  | error e => exact .inl ⟨e, t, copied_of_stops (.invalidPreset hpreset), hfound⟩
  | ok preset =>
    have hhas : t.has r.source = true := FileTree.has_iff.2 ⟨p, n, hfound⟩
    have hcheck := check_run (r := r) (t := t)
    rw [hhas, if_neg (by decide)] at hcheck
    split at hcheck
    · exact .inl ⟨_, t, copied_of_check_error hpreset hcheck, hfound⟩
    · rename_i hother
      split at hcheck
      · exact .inl ⟨_, t, copied_of_check_error hpreset hcheck, hfound⟩
      · rw [copied_of_check_ok hpreset hcheck, FileOp.bind_run_of_ok (FileOp.look_run _)]
        cases t.has r.output with
        | false =>
          obtain hfails | ⟨u, hcopy⟩ := copied_of_free hsource hdisk houtput hfound preset
          · exact .inl hfails
          · exact .inr ⟨preset, u, rfl, hcopy⟩
        | true =>
          simp only [if_true]
          obtain ⟨q, c, hfind, hremove⟩ | ⟨-, e, hremove⟩ := FileOp.removeFile_cases r.output t
          · rw [FileOp.bind_run_of_ok hremove]
            have hne : p ≠ q := by
              rw [sameFile_of_find? hfound hfind] at hother
              simpa using hother
            have hfile : t.node? q ≠ some .directory := by
              rw [(FileTree.eq_aim_of_find? hfind).2]
              simp
            obtain hfails | ⟨u, hcopy⟩ := copied_of_free hsource hdisk houtput
              (FileTree.find?_erase hfile hne hfound) preset
            · exact .inl hfails
            · exact .inr ⟨preset, u, rfl, hcopy⟩
          · exact .inl ⟨e, t, FileOp.bind_run_of_error hremove, hfound⟩

end Copying

theorem finish_of_missing (h : t.has r.output = false) :
    finish settings r preset t = .error (.snapshotNotFound r.output) t :=
  FileOp.bind_run_of_error (orRemove_passes_of_missing h)

theorem finish_of_holds (h : Holds t r.output q s) : finish settings r preset t =
    match requested settings r preset .readWrite s with
    | .ok (scope, scrub) v => .ok ⟨r.output, scope, scrub⟩ (t.put q (.file (.snapshot v)))
    | .error e v => .error e ((t.put q (.file (.snapshot v))).erase q) := by
  unfold finish requested
  rw [FileOp.bind_run, orRemove_passes h]
  cases passesOn _ _ .readWrite s with
  | ok a v => rfl
  | error e v => rfl

theorem run_of_stops (h : Stops settings r t e) : run settings r t = .error e t := by
  rw [run_eq]
  exact FileOp.bind_run_of_error (copied_of_stops h)

section Paths
variable (hsource : IsPath r.source) (hdisk : r.source ≠ ":memory:") (houtput : IsPath r.output)
include hsource hdisk houtput

theorem run_keeps_source (hfound : t.find? r.source = some (p, n)) :
    (left (run settings r t)).find? r.source = some (p, n) := by
  rw [run_eq]
  obtain ⟨e, u, hrun, hkept⟩ | ⟨preset, u, -, hrun, hkept, hcopy⟩ :=
    copied_cases hsource hdisk houtput hfound settings
  · rw [FileOp.bind_run_of_error hrun]
    exact hkept
  · rw [FileOp.bind_run_of_ok hrun]
    cases hhas : u.has r.output with
    | false =>
      rw [finish_of_missing hhas]
      exact hkept
    | true =>
      obtain ⟨c, s, q, -, -, hne, hholds⟩ := hcopy hhas
      have hput : ∀ v, (u.put q (.file (.snapshot v))).find? r.source = some (p, n) := by
        intro v
        refine FileTree.find?_put ?_ hne.symm hkept
        simp [hholds.node?]
      rw [finish_of_holds hholds]
      cases requested settings r preset .readWrite s with
      | ok a v => exact hput v
      | error e v =>
        refine FileTree.find?_erase ?_ hne.symm (hput v)
        simp [hholds.put.node?]

theorem exists_of_run {report : ExportReport} (h : run settings r t = .ok report u) :
    ∃ preset p c s v q, settings.choosePreset r.preset = .ok preset ∧
      t.find? r.source = some (p, .file c) ∧ c.snapshot? = some s ∧
      requested settings r preset .readWrite s = .ok (report.scope, report.scrub) v ∧
      report.output = r.output ∧ u.find? r.output = some (q, .file (.snapshot v)) := by
  rw [run_eq] at h
  cases hfind : t.find? r.source with
  | none =>
    have hnone : t.has r.source = false := by rw [FileTree.has, hfind, Option.isSome_none]
    have hstops : ∃ e, Stops settings r t e := by
      cases hpreset : settings.choosePreset r.preset with
      | error e => exact ⟨e, .invalidPreset hpreset⟩
      | ok preset => exact ⟨_, .noSource hpreset hnone⟩
    obtain ⟨e, hstops⟩ := hstops
    rw [FileOp.bind_run_of_error (copied_of_stops hstops)] at h
    cases h
  | some found =>
    obtain ⟨p, n⟩ := found
    obtain ⟨e, w, hrun, -⟩ | ⟨preset, w, hpreset, hrun, -, hcopy⟩ :=
      copied_cases hsource hdisk houtput hfind settings
    · rw [FileOp.bind_run_of_error hrun] at h
      cases h
    · rw [FileOp.bind_run_of_ok hrun] at h
      cases hhas : w.has r.output with
      | false =>
        rw [finish_of_missing hhas] at h
        cases h
      | true =>
        obtain ⟨c, s, q, rfl, hs, -, hholds⟩ := hcopy hhas
        rw [finish_of_holds hholds] at h
        cases hpasses : requested settings r preset .readWrite s with
        | error e v =>
          rw [hpasses] at h
          cases h
        | ok a v =>
          rw [hpasses] at h
          cases h
          exact ⟨preset, p, c, s, v, q, hpreset, rfl, hs, hpasses, rfl, hholds.put.found⟩

theorem run_of_failure {c : Content} (hcopied : copied settings r t = .ok preset u)
    (hhas : u.has r.output = true) (hfound : t.find? r.source = some (p, .file c))
    (hs : c.snapshot? = some s) (hfails : requested settings r preset .readWrite s = .error e v) :
    ∃ w, run settings r t = .error e w ∧ w.has r.output = false := by
  rw [run_eq, FileOp.bind_run_of_ok hcopied]
  obtain ⟨e, w, hrun, -⟩ | ⟨preset', w, -, hrun, -, hcopy⟩ :=
    copied_cases hsource hdisk houtput hfound settings
  · cases hcopied.symm.trans hrun
  · cases hcopied.symm.trans hrun
    obtain ⟨c', s', q, hc, hs', -, hholds⟩ := hcopy hhas
    cases hc
    cases hs.symm.trans hs'
    rw [finish_of_holds hholds, hfails]
    refine ⟨_, rfl, FileTree.has_eq_false_of_node? ?_⟩
    have haim : q = u.aim r.output := (FileTree.eq_aim_of_find? hholds.found).1
    change ((u.put q _).erase q).node? (u.aim r.output) = none
    rw [← haim]
    exact FileTree.node?_erase_self hholds.ne_nil

end Paths

/-- An export to and from a path leaves its source as it is, whatever comes of it, and one that
stops early changes nothing. One that goes through leaves at the output what the passes make of the
source, and reports what they report; if they fail on the copy their failure is the answer, and the
output is gone. -/
theorem run_of_paths (settings : Settings) (t : FileTree) (hsource : IsPath r.source)
    (hdisk : r.source ≠ ":memory:") (houtput : IsPath r.output) :
    (∀ p n, t.find? r.source = some (p, n) →
      (left (run settings r t)).find? r.source = some (p, n)) ∧
    (∀ e, Stops settings r t e → run settings r t = .error e t) ∧
    (∀ report u, run settings r t = .ok report u → ∃ preset p c s v q,
      settings.choosePreset r.preset = .ok preset ∧
      t.find? r.source = some (p, .file c) ∧ c.snapshot? = some s ∧
      requested settings r preset .readWrite s = .ok (report.scope, report.scrub) v ∧
      report.output = r.output ∧ u.find? r.output = some (q, .file (.snapshot v))) ∧
    (∀ preset u p c s e v, copied settings r t = .ok preset u → u.has r.output = true →
      t.find? r.source = some (p, .file c) → c.snapshot? = some s →
      requested settings r preset .readWrite s = .error e v →
        ∃ w, run settings r t = .error e w ∧ w.has r.output = false) :=
  ⟨fun _ _ => run_keeps_source hsource hdisk houtput, fun _ => run_of_stops,
    fun _ _ => exists_of_run hsource hdisk houtput,
    fun _ _ _ _ _ _ _ => run_of_failure hsource hdisk houtput⟩

/-- Two projects in one file. -/
def sourceSample : FileTree :=
  ⟨[], [(["src.db"], .file (.snapshot
    { Snapshot.empty .strict with
      projects := some [⟨.integer 1, .text "one", .text "/one"⟩,
        ⟨.integer 2, .text "two", .text "/two"⟩] }))]⟩

def requestSample : ExportRequest := ⟨"src.db", "out.db", ["one"], none, false, false⟩

theorem exists_run_requestSample :
    ∃ report u, run .default requestSample sourceSample = .ok report u := by
  have hgoes : (match run .default requestSample sourceSample with
      | .ok _ _ => true
      | .error _ _ => false) = true := by decide +kernel
  cases hrun : run .default requestSample sourceSample with
  | ok report u => exact ⟨report, u, rfl⟩
  | error e u =>
    rw [hrun] at hgoes
    cases hgoes

theorem run_requestSample : ∃ report u p q s v,
    run .default requestSample sourceSample = .ok report u ∧
      requested .default requestSample .standard .readWrite s =
        .ok (report.scope, report.scrub) v ∧
      u.find? "src.db" = some (p, .file (.snapshot s)) ∧
      u.find? "out.db" = some (q, .file (.snapshot v)) := by
  have hsource : IsPath requestSample.source := by decide
  have houtput : IsPath requestSample.output := by decide
  obtain ⟨report, u, hrun⟩ := exists_run_requestSample
  obtain ⟨hkept, -, hok, -⟩ :=
    run_of_paths .default sourceSample hsource (by decide) houtput
  obtain ⟨preset, p, c, s, v, q, hpreset, hfound, hs, hpasses, -, hout⟩ := hok report u hrun
  cases hpreset
  have hsame := hkept p _ hfound
  rw [hrun] at hsame
  obtain ⟨s', rfl⟩ : ∃ s', c = .snapshot s' := by
    cases hfound
    exact ⟨_, rfl⟩
  cases hs
  exact ⟨report, u, p, q, s, v, hrun, hpasses, hsame, hout⟩

/-- The output leads to the source once the directory in front of it has been made, while the store
takes it for the address of another file. -/
def strayRequest : ExportRequest := ⟨"src.db", "file:b?/../src.db", ["nobody"], none, false, false⟩

/-- An export that fails may remove its source. -/
theorem run_may_remove_source :
    ¬ ∀ (settings : Settings) (r : ExportRequest) (t : FileTree) (p : Place) (s : Snapshot),
      t.find? r.source = some (p, .file (.snapshot s)) →
        (left (run settings r t)).find? r.source = some (p, .file (.snapshot s)) := by
  intro h
  have hgone : (left (run .default strayRequest sourceSample)).find? "src.db" = none := by
    decide +kernel
  have hkept := h .default strayRequest sourceSample ["src.db"] _ rfl
  cases hgone.symm.trans hkept

end MailSnapshot.Export
