import MailSnapshot.Proofs.Scope.Crowd
import MailSnapshot.Proofs.Scrub.RowWise

/-! Sessions: scrub and scope calls on one open snapshot, one after the other, in any order. A sound
snapshot stays sound, no row comes in, and the store refuses few calls. -/

namespace MailSnapshot

/-- A project whose names are texts. -/
def Project.Named (p : Project) : Prop :=
  (∃ slug, p.slug = .text slug) ∧ ∃ humanKey, p.humanKey = .text humanKey

theorem Project.exists_record {p : Project} (h : p.Named) {n : Int} (hn : p.id = .integer n) :
    ∃ record, p.record = .ok record := by
  obtain ⟨⟨slug, hs⟩, humanKey, hk⟩ := h
  exact ⟨⟨n, slug, humanKey⟩, by simp only [record, hn, hs, hk]; rfl⟩

namespace Session

inductive Call where
  | scrub (preset : Preset)
  | scope (identifiers : List String)

inductive Answer where
  | scrubbed (summary : ScrubSummary)
  | scoped (result : ScopeResult)

variable {s t u : Snapshot} {access : Access} {identifiers : List String} {preset : Preset}
  {calls : List Call} {i : Nat} {outcome : EStateM.Result Failure Snapshot Answer}

def Call.run : Call → Pass Answer
  | .scrub preset => .scrubbed <$> Scrub.apply preset
  | .scope identifiers => .scoped <$> Scope.apply identifiers

/-- What the calls of a session come to. Each one finds the snapshot as the one before has left it,
whether that one went through or failed. -/
def outcomes (access : Access) (s : Snapshot) :
    List Call → List (EStateM.Result Failure Snapshot Answer)
  | [] => []
  | call :: calls =>
    let outcome := call.run access s
    outcome :: outcomes access (Pass.left outcome) calls

/-- The snapshot at the end of a session. -/
def reached (access : Access) (s : Snapshot) (calls : List Call) : Snapshot :=
  calls.foldl (fun t call => Pass.left (call.run access t)) s

@[simp] theorem reached_nil : reached access s [] = s := rfl

@[simp] theorem reached_cons (call : Call) :
    reached access s (call :: calls) = reached access (Pass.left (call.run access s)) calls := rfl

/-- Each call runs on what the calls before it have reached. -/
theorem outcomes_getElem? : (outcomes access s calls)[i]? =
    calls[i]?.map fun call => call.run access (reached access s (calls.take i)) := by
  induction calls generalizing s i with
  | nil => rfl
  | cons call calls ih =>
    cases i with
    | zero => rfl
    | succ i => exact ih

/-- The store refuses a call: one that has something to change where it may only be read, and a
scope call that keeps some of the projects but more of them than a statement has parameters. -/
def Refused (access : Access) (s : Snapshot) : Call → Prop
  | .scrub preset => access = .readOnly ∧ preset ≠ .archive
  | .scope identifiers => ∃ keep, Scope.Narrows s identifiers keep ∧
      (access = .readOnly ∨ Parameter.limit < keep.length)

/-- What no call of a session breaks. -/
structure Sound (s : Snapshot) : Prop where
  strict : s.Strict
  complete : s.Complete
  quiet : s.triggers = []
  intact : s.Intact
  named : ∀ p ∈ s.rows .projects, p.Named

/-- A sound snapshot whose rows are those of another one, some of them gone and some revised. -/
structure Descends (s t : Snapshot) : Prop where
  sound : Sound t
  revision : ∃ f, t = s.revise f

theorem Descends.refl (h : Sound s) : Descends s s :=
  ⟨h, .keeping fun _ _ => true, (Snapshot.revise_of_all fun _ _ _ => rfl).symm⟩

theorem Descends.trans (h : Descends s t) (h' : Descends t u) : Descends s u := by
  obtain ⟨f, rfl⟩ := h.revision
  obtain ⟨g, rfl⟩ := h'.revision
  exact ⟨h'.sound, f.andThen g, Snapshot.revise_andThen.symm⟩

/-- A revision can break nothing but references. -/
theorem Sound.revise (h : Sound s) {f : Revision} (hi : (s.revise f).Intact) :
    Descends s (s.revise f) where
  sound :=
    { strict := h.strict.revise
      complete := Snapshot.alike_revise.complete h.complete
      quiet := h.quiet
      intact := hi
      named := by
        intro p hp
        obtain ⟨q, hq, hf⟩ := Snapshot.mem_rows_revise.1 hp
        have hsame : p = q := f.keeps .projects q p hf
        exact hsame ▸ h.named q hq }
  revision := ⟨f, rfl⟩

theorem Sound.exists_readProjects (h : Sound s) : ∃ projects, s.readProjects = .ok projects := by
  rw [Snapshot.readProjects, Snapshot.need_of_has (h.complete .projects (by decide) (by decide))]
  apply exists_mapM
  intro p hp
  have hrow : p ∈ s.rows .projects := (orderById_perm _).mem_iff.1 hp
  obtain ⟨n, hn⟩ := h.strict.id_integer .projects p hrow p.id rfl
  exact Project.exists_record (h.named p hrow) hn

/-- A scrub pass never takes away what a row may refer to. -/
theorem intact_cleaning (h : s.Intact) : (s.revise (Scrub.cleaning preset)).Intact := by
  intro u r' hr' ref href
  obtain ⟨r, hr, hf⟩ := Snapshot.mem_rows_revise.1 hr'
  rw [((Scrub.cleaning preset).keeps u r r' hf).references] at href
  have htable : ref.1 ∈ u.parents := by
    rw [← Table.map_fst_references u r]
    exact List.mem_map_of_mem href
  rw [Snapshot.dangles_revise]
  · exact h u r hr ref href
  · intro x _
    -- No column names a reservation or a link.
    apply Scrub.isSome_cleaning <;> intro heq <;> rw [heq] at htable <;>
      cases u <;> simp [Table.parents] at htable

theorem lost_of_intact (h : s.Intact) : s.lost = [] := by
  rw [Snapshot.lost, List.filter_eq_nil_iff]
  intro r hr
  rw [h .recipients r hr (.messages, r.message) (by simp [Table.references])]
  decide

theorem Sound.scrub {summary : ScrubSummary} (h : Sound s)
    (hrun : Scrub.apply preset access s = .ok summary t) : Descends s t := by
  rw [Scrub.eq_revise_of_apply h.strict hrun]
  exact h.revise (intact_cleaning h.intact)

theorem Sound.scope {result : ScopeResult} (h : Sound s)
    (hrun : Scope.apply identifiers access s = .ok result t) : Descends s t := by
  obtain ⟨projects, kept, hread, hselect, -, -, ⟨-, rfl, -⟩ | ⟨hlength, rfl, -⟩⟩ :=
    Scope.apply_cases hrun
  · exact .refl h
  · have hn := Scope.narrows_of_select hread hselect hlength
    have hi : (Scope.remains (Scope.keptIds kept) s Scope.plan).Intact := by
      intro u r hr ref href
      refine Scope.dangles_of_left h.strict hn.ne_null_of_mem (fun _ hc => hn.exists_project hc) hr
        ?_ href
      rw [lost_of_intact h.intact]
      simp
    rw [Scope.remains, Snapshot.restrict_eq_revise] at hi ⊢
    exact h.revise hi

theorem Sound.scrub_error_iff (h : Sound s) :
    (∃ step fault t, Scrub.apply preset access s = .error (.store step fault) t) ↔
      access = .readOnly ∧ preset ≠ .archive := by
  have hagents := h.complete .agents (by decide) (by decide)
  have hmessages := h.complete .messages (by decide) (by decide)
  by_cases hp : preset = .archive
  · subst hp
    simp [Scrub.apply_archive_eq_ok_iff.2 ⟨hagents, rfl, rfl⟩]
  · cases access with
    | readWrite =>
      obtain ⟨summary, hrun⟩ := Scrub.exists_apply_of_strict h.strict h.complete h.quiet preset
      simp [hrun]
    | readOnly =>
      have hreset := Scrub.reset_of_readOnly hp hagents hmessages
      have hrun : Scrub.apply preset .readOnly s = .error (.store .resetAcks .notWritable) s :=
        Pass.atomic_run_of_error (Pass.bind_run_of_error hreset)
      simp [hrun, hp]

/-- A scope call that keeps some of the projects, as many as a statement has parameters at most. -/
theorem Sound.exists_scope (h : Sound s) {keep : List Cell} (hn : Scope.Narrows s identifiers keep)
    (hfit : keep.length ≤ Parameter.limit) :
    ∃ result t, Scope.apply identifiers .readWrite s = .ok result t := by
  refine (Scope.exists_apply_iff h.strict h.complete h.quiet hn).2 ⟨hfit, ?_⟩
  apply Scope.imbalance_eq_zero
  rintro ⟨r, hr, _⟩
  rw [lost_of_intact h.intact] at hr
  cases hr

/-- A scope call that the store refuses keeps some of the projects and not all. -/
theorem Sound.narrows_of_scope (h : Sound s) {step : Step} {fault : Fault}
    (hfail : Scope.apply identifiers access s = .error (.store step fault) t) :
    ∃ keep, Scope.Narrows s identifiers keep := by
  obtain ⟨projects, hread⟩ := h.exists_readProjects
  rw [Scope.apply_run hread] at hfail
  cases hselect : Scope.select projects identifiers with
  | error e =>
    rw [hselect] at hfail
    cases hfail
    exact (Scope.select_ne_store hselect).elim
  | ok kept =>
    rw [hselect] at hfail
    by_cases hlength : kept.length = projects.length
    · simp only [hlength, if_true] at hfail
      rw [Scope.untouched_eq_ok_iff.2 ⟨h.complete, rfl, rfl⟩] at hfail
      cases hfail
    · exact ⟨_, Scope.narrows_of_select hread hselect hlength⟩

theorem Sound.scope_error_iff (h : Sound s) :
    (∃ step fault t, Scope.apply identifiers access s = .error (.store step fault) t) ↔
      ∃ keep, Scope.Narrows s identifiers keep ∧
        (access = .readOnly ∨ Parameter.limit < keep.length) := by
  constructor
  · rintro ⟨step, fault, t, hfail⟩
    obtain ⟨keep, hn⟩ := h.narrows_of_scope hfail
    refine ⟨keep, hn, ?_⟩
    by_contra hnot
    obtain ⟨haccess, hfit⟩ := not_or.1 hnot
    cases access with
    | readOnly => exact haccess rfl
    | readWrite =>
      obtain ⟨result, u, hok⟩ := h.exists_scope hn (Nat.le_of_not_lt hfit)
      cases hfail.symm.trans hok
  · rintro ⟨keep, hn, hor⟩
    by_cases hfit : keep.length ≤ Parameter.limit
    · obtain rfl := hor.resolve_right (Nat.not_lt.2 hfit)
      have hfirst := Scope.execute_firstDeletion_of_readOnly h.complete hfit
      exact ⟨_, _, s, Scope.apply_of_fault hn hfirst⟩
    · exact ⟨_, _, s, Scope.apply_of_excess hn (Nat.lt_of_not_le hfit)⟩

section Step
variable {α : Type} {p : Pass α}

/-- A pass that fails leaves the snapshot alone, so only what it does when it goes through
matters. -/
theorem Sound.left (h : Sound s) (hp : p.AllOrNothing)
    (hok : ∀ a t, p access s = .ok a t → Descends s t) : Descends s (Pass.left (p access s)) := by
  cases hrun : p access s with
  | ok a t => exact hok a t hrun
  | error e t =>
    obtain rfl := hp access s e t hrun
    exact .refl h

end Step

/-- One call. -/
theorem Sound.call (h : Sound s) (call : Call) : Descends s (Pass.left (call.run access s)) := by
  cases call with
  | scrub preset =>
    rw [Call.run, Pass.left_map]
    exact h.left (Pass.allOrNothing_atomic _) fun _ _ hrun => h.scrub hrun
  | scope identifiers =>
    rw [Call.run, Pass.left_map]
    exact h.left (Scope.allOrNothing_apply identifiers) fun _ _ hrun => h.scope hrun

theorem Sound.call_error_iff (h : Sound s) (call : Call) :
    (∃ step fault t, call.run access s = .error (.store step fault) t) ↔
      Refused access s call := by
  cases call with
  | scrub preset =>
    simp only [Call.run, Pass.map_eq_error_iff]
    exact h.scrub_error_iff
  | scope identifiers =>
    simp only [Call.run, Pass.map_eq_error_iff]
    exact h.scope_error_iff

/-- Any number of calls. -/
theorem Sound.reached (h : Sound s) (calls : List Call) :
    Descends s (reached access s calls) := by
  induction calls generalizing s with
  | nil => exact .refl h
  | cons call calls ih =>
    have hnext : Descends s (Pass.left (call.run access s)) := h.call call
    exact hnext.trans (ih hnext.sound)

/-- Two projects that share a message. There is no table of links. -/
def soundSample : Snapshot :=
  { Snapshot.empty .strict with
    projects := some [⟨.integer 1, .text "one", .text "/one"⟩,
      ⟨.integer 2, .text "two", .text "/two"⟩]
    agents := some [⟨.integer 1, .integer 1, .text "x"⟩, ⟨.integer 2, .integer 2, .text "y"⟩]
    messages := some [
      ⟨.integer 1, .integer 1, .integer 1, .text "plain", .text "hello", .text "[1]", .integer 1⟩,
      ⟨.integer 2, .integer 1, .integer 2, .text "plain", .text "hello", .null, .integer 0⟩]
    recipients := some [⟨.integer 1, .integer 1, .text "now", .null⟩,
      ⟨.integer 1, .integer 2, .null, .null⟩]
    links := none }

theorem sound_soundSample : Sound soundSample where
  strict := by decide
  complete := by decide
  quiet := rfl
  intact := by intro u; cases u <;> decide
  named := by
    rintro p hp
    simp only [soundSample, Snapshot.rows, Snapshot.table?, Option.getD_some, List.mem_cons,
      List.not_mem_nil, or_false] at hp
    rcases hp with rfl | rfl
    · exact ⟨⟨_, rfl⟩, _, rfl⟩
    · exact ⟨⟨_, rfl⟩, _, rfl⟩

theorem readProjects_left_soundSample :
    (reached .readWrite soundSample [.scope ["one"], .scrub .strict]).readProjects =
      .ok [⟨1, "one", "/one"⟩] := by
  decide +kernel

theorem not_refused_soundSample :
    ¬ Refused .readWrite (reached .readWrite soundSample [.scope ["one"], .scrub .strict])
      (.scope ["nobody"]) := by
  rintro ⟨keep, ⟨projects, kept, hread, -, hresolve, -⟩, -⟩
  cases readProjects_left_soundSample.symm.trans hread
  have hnobody : Scope.resolve [⟨1, "one", "/one"⟩] ["nobody"] =
      .error (.identifierNotFound "nobody") := by decide +kernel
  cases hnobody.symm.trans hresolve

theorem sound_crowd {n : Nat} : Sound (Scope.crowd n) where
  strict := Scope.strict_crowd
  complete := Scope.complete_crowd
  quiet := rfl
  intact := Scope.intact_crowd
  named := by
    intro p hp
    obtain ⟨i, -, rfl⟩ := List.mem_map.1 hp
    exact ⟨⟨_, rfl⟩, _, rfl⟩

end Session
end MailSnapshot
