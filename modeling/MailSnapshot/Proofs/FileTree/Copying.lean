import MailSnapshot.FileTree.Snapshot
import MailSnapshot.Proofs.FileTree.Changes
import Mathlib.Data.List.TakeWhile

/-! Opening and copying snapshots whose names are paths, not addresses. -/

namespace MailSnapshot

/-- The store reads the text as the path of a file; a text that starts like an address is one. -/
def IsPath (path : String) : Prop := ¬ "file:".toList <+: path.toList

instance (path : String) : Decidable (IsPath path) := inferInstanceAs (Decidable (¬ _))

theorem parse_of_isPath {path : String} (h : IsPath path) (mode : Address.Mode) :
    Address.parse mode path = .ok ⟨path, [], mode⟩ := by
  unfold Address.parse
  split
  · rename_i rest heq
    exact absurd ⟨rest, heq.symm⟩ h
  · rfl

/-- What the store reads of a path. -/
def untilNul (path : String) : String := String.ofList (path.toList.takeWhile (· ≠ '\x00'))

theorem isPath_untilNul {path : String} (h : IsPath path) : IsPath (untilNul path) := by
  intro hstarts
  rw [untilNul, @String.toList_ofList (path.toList.takeWhile _)] at hstarts
  exact h (hstarts.trans (List.takeWhile_prefix _))

theorem untilNul_of_sayable {path : String} (h : FileTree.Sayable path) : untilNul path = path := by
  have hall : path.toList.takeWhile (· ≠ '\x00') = path.toList := by
    rw [List.takeWhile_eq_self_iff]
    intro c hc
    have hne : c ≠ '\x00' := fun heq => h.1 (heq ▸ hc)
    simpa using hne
  rw [untilNul, hall, String.ofList_toList]

namespace FileTree
variable {t u : FileTree} {p q : Place} {n m : Node} {c : Content} {path : String}

theorem sayable_of_find? (h : t.find? path = some (p, n)) : Sayable path :=
  (locate_eq_ok_iff.1 (find?_eq_some_iff.1 h)).1

/-- Another place may take or lose a file. -/
theorem find?_put (hq : t.node? q ≠ some .directory) (hne : p ≠ q)
    (h : t.find? path = some (p, n)) : (t.put q m).find? path = some (p, n) := by
  refine find?_mono (t := t) (u := t.put q m) rfl ?_ ?_ h
  · intro r hr
    rwa [node?_put_of_ne]
    rintro rfl
    exact hq hr
  · rw [node?_put_of_ne hne]
    exact (eq_aim_of_find? h).2

theorem find?_erase (hq : t.node? q ≠ some .directory) (hne : p ≠ q)
    (h : t.find? path = some (p, n)) : (t.erase q).find? path = some (p, n) := by
  refine find?_mono (t := t) (u := t.erase q) rfl ?_ ?_ h
  · intro r hr
    rwa [node?_erase_of_ne]
    rintro rfl
    exact hq hr
  · rw [node?_erase_of_ne hne]
    exact (eq_aim_of_find? h).2

/-- What becomes of an opened file. -/
def opened (p : Place) (c : Content) : Opened :=
  ⟨some (p, c), .readWrite, some Address.disk, Address.disk⟩

section Opening
variable (h : IsPath path) (hempty : path ≠ "") (hmemory : path ≠ ":memory:")
include h hempty hmemory

theorem openSnapshot_eq : t.openSnapshot path =
    match t.spelled? path with
    | none => .error (.unopenable path)
    | some p =>
      match t.node? p with
      | some (.file c) => .ok (opened p c)
      | _ => .error (.unopenable path) := by
  have hdisk : (⟨path, [], .readWrite⟩ : Address).isInMemory Address.disk = false := by
    have hkept : Address.disk ≠ Address.inMemory := by decide
    simp [Address.isInMemory, Address.isPrivate, hempty, hmemory, Address.fileSystem?, hkept]
  rw [openSnapshot, parse_of_isPath h]
  change (if (⟨path, [], .readWrite⟩ : Address).isInMemory Address.disk = true then _ else _) = _
  rw [hdisk]
  cases hspelled : t.spelled? path with
  | none =>
    simp only
    rfl
  | some p =>
    rcases hnode : t.node? p with _ | _ | c
    all_goals
      simp only [hnode]
      rfl

/-- What is opened is a file that the path spells. -/
theorem openSnapshot_cases : (∃ fault, t.openSnapshot path = .error fault) ∨
    ∃ p c, t.spelled? path = some p ∧ t.node? p = some (.file c) ∧
      t.openSnapshot path = .ok (opened p c) := by
  rw [openSnapshot_eq h hempty hmemory]
  split
  · exact .inl ⟨_, rfl⟩
  · rename_i p hspelled
    split
    · rename_i c hnode
      exact .inr ⟨p, c, hspelled, hnode, rfl⟩
    · exact .inl ⟨_, rfl⟩

theorem openSnapshot_of_file (hspelled : t.spelled? path = some p)
    (hnode : t.node? p = some (.file c)) : t.openSnapshot path = .ok (opened p c) := by
  rw [openSnapshot_eq h hempty hmemory, hspelled]
  simp only [hnode]

end Opening

/-- Makes an empty file in a place where there is nothing. -/
def touch (t : FileTree) (q : Place) : FileTree :=
  if (t.node? q).isNone then t.put q (.file (.bytes [])) else t

theorem find?_touch (h : t.find? path = some (p, n)) : (t.touch q).find? path = some (p, n) := by
  rw [touch]
  split
  · rename_i hnone
    have hnone : t.node? q = none := by simpa using hnone
    refine find?_put (by simp [hnone]) ?_ h
    rintro rfl
    rw [(eq_aim_of_find? h).2] at hnone
    cases hnone
  · exact h

theorem put_touch : (t.touch q).put q m = t.put q m := by
  rw [touch]
  split
  · exact put_put
  · rfl

end FileTree

namespace FileOp
open FileTree (opened)
variable {t u : FileTree} {p q : Place} {n : Node} {c : Content} {s : Snapshot} {a : Address}
  {path source destination : String}

theorem openSnapshot_run_of_error {fault : Fault} (h : t.openSnapshot path = .error fault) :
    openSnapshot path t = .ok (.error fault) t := by
  rw [openSnapshot, bind_run, look_run, h]
  rfl

/-- Opening a file that is there changes nothing. -/
theorem openSnapshot_run_of_file (h : t.openSnapshot path = .ok (opened p c))
    (hnode : t.node? p = some n) : openSnapshot path t = .ok (.ok (opened p c)) t := by
  rw [openSnapshot, bind_run, look_run, h]
  simp only [opened]
  rw [bind_run, look_run]
  simp [hnode]

theorem bars_opened : (opened p c).bars q (some Address.disk) = true ↔ p = q := by
  simp [Opened.bars, opened]

theorem writeNew_run {o : Opened} : writeNew o s a q t =
    if a.access = .readOnly then .ok (some .notWritable) (t.touch q)
    else if o.bars q (a.lock? o.fileSystem) then .ok (some .locked) (t.touch q)
    else if FileTree.takesJournal q then .ok none (t.put q (.file (.snapshot s)))
    else .ok (some .noJournal) (t.touch q) := by
  have hrest : ∀ v : FileTree, (do
      if a.access = .readOnly then return some .notWritable
      if o.bars q (a.lock? o.fileSystem) then return some .locked
      unless FileTree.takesJournal q do return some .noJournal
      put q (.file (.snapshot s))
      return none : FileOp (Option Fault)) v =
      if a.access = .readOnly then .ok (some .notWritable) v
      else if o.bars q (a.lock? o.fileSystem) then .ok (some .locked) v
      else if FileTree.takesJournal q then .ok none (v.put q (.file (.snapshot s)))
      else .ok (some .noJournal) v := by
    intro v
    by_cases hw : a.access = .readOnly
    · simp only [if_pos hw]
      rfl
    · by_cases hb : o.bars q (a.lock? o.fileSystem) = true
      · simp only [if_neg hw, if_pos hb]
        rfl
      · by_cases hj : FileTree.takesJournal q = true
        · simp only [if_neg hw, if_neg hb, if_pos hj]
          rfl
        · simp only [if_neg hw, if_neg hb, if_neg hj]
          rfl
  rw [← FileTree.put_touch, ← hrest]
  unfold writeNew FileTree.touch
  rw [bind_run_of_ok (look_run _)]
  cases (t.node? q).isNone
  · rfl
  · rfl

/-- A new snapshot is written only into another place than that of the open file. -/
theorem writeNew_cases (haccess : a.access = .readWrite)
    (hlock : a.lock? Address.disk = some Address.disk) :
    (∃ fault, writeNew (opened p c) s a q t = .ok (some fault) (t.touch q)) ∨
    q ≠ p ∧ writeNew (opened p c) s a q t = .ok none (t.put q (.file (.snapshot s))) := by
  have hwrite : a.access ≠ .readOnly := by rw [haccess]; decide
  rw [writeNew_run, if_neg hwrite]
  change (∃ _, (if (opened p c).bars q (a.lock? Address.disk) = true then _ else _) = _) ∨
    q ≠ p ∧ (if (opened p c).bars q (a.lock? Address.disk) = true then _ else _) = _
  rw [hlock]
  split
  · exact .inl ⟨_, rfl⟩
  · rename_i hbars
    rw [bars_opened] at hbars
    split
    · exact .inr ⟨Ne.symm hbars, rfl⟩
    · exact .inl ⟨_, rfl⟩

/-- A path as the address of a file that may be made. -/
def madeAt (path : String) : Address := ⟨untilNul path, [], .create⟩

/-- What may become of writing a snapshot to a path while the file in a place is open. -/
inductive Attempt (path : String) (p : Place) (s : Snapshot) (t : FileTree) :
    EStateM.Result Failure FileTree (Option Fault) → Prop where
  | fails (fault : Fault) : Attempt path p s t (.ok (some fault) t)
  /-- A file that cannot be written may have been made. -/
  | failsLate (fault : Fault) (q : Place) : Attempt path p s t (.ok (some fault) (t.touch q))
  | inMemory (h : untilNul path = "" ∨ untilNul path = ":memory:") :
    Attempt path p s t (.ok none t)
  | writes {q : Place} (hmemory : untilNul path ≠ ":memory:")
    (hspelled : t.spelled? (untilNul path) = some q) (hne : q ≠ p)
    (hfile : t.node? q ≠ some .directory) :
    Attempt path p s t (.ok none (t.put q (.file (.snapshot s))))

section Writing
variable (hpath : IsPath path)
include hpath

theorem writeCopy_in_memory (h : untilNul path = "" ∨ untilNul path = ":memory:") :
    writeCopy (opened p c) s path t = .ok none t := by
  have hparse : Address.parse .create (String.ofList (path.toList.takeWhile (· ≠ '\x00'))) =
      .ok (madeAt path) := parse_of_isPath (isPath_untilNul hpath) .create
  have hmemory : (madeAt path).isInMemory (opened p c).fileSystem = true := by
    rcases h with h | h <;> simp [madeAt, Address.isInMemory, Address.isPrivate, h]
  unfold writeCopy
  simp only [hparse, if_pos hmemory]
  rfl

theorem writeCopy_run (h : ¬ (untilNul path = "" ∨ untilNul path = ":memory:")) :
    writeCopy (opened p c) s path t =
      match t.spelled? (untilNul path) with
      | none => .ok (some (.unattachable (untilNul path))) t
      | some q =>
        match t.node? q with
        | some .directory => .ok (some (.unattachable (untilNul path))) t
        | some (.file (.snapshot _)) => .ok (some .outputThere) t
        | some (.file (.bytes data)) =>
          if (Content.bytes data).snapshot?.isSome then
            writeNew (opened p c) s (madeAt path) q t
          else .ok (some .notASnapshot) t
        | none =>
          if t.mayMake (madeAt path) q then writeNew (opened p c) s (madeAt path) q t
          else .ok (some (.unattachable (untilNul path))) t := by
  have hparse : Address.parse .create (String.ofList (path.toList.takeWhile (· ≠ '\x00'))) =
      .ok (madeAt path) := parse_of_isPath (isPath_untilNul hpath) .create
  have hdisk : ¬ (madeAt path).isInMemory (opened p c).fileSystem = true := by
    have hkept : Address.disk ≠ Address.inMemory := by decide
    rw [not_or] at h
    simp [madeAt, Address.isInMemory, Address.isPrivate, Address.fileSystem?, hkept, opened, h.1,
      h.2]
  have hhere : ∀ (found : Option Place), t.spelled? (untilNul path) = found →
      t.spelled? (madeAt path).path = found := fun _ => id
  unfold writeCopy
  simp only [hparse, if_neg hdisk]
  rw [bind_run_of_ok (show (get : FileOp FileTree) t = .ok t t from rfl)]
  cases hspelled : t.spelled? (untilNul path) with
  | none =>
    simp only [hhere _ hspelled]
    rfl
  | some q =>
    have hmodel : ¬ t.lacksModel (madeAt path) = true := Bool.false_ne_true
    rcases hnode : t.node? q with _ | _ | _ | data
    all_goals
      simp only [hhere _ hspelled, hnode, if_neg hmodel]
    · split <;> rfl
    · rfl
    · rfl
    · split <;> rfl

theorem attempt_writeCopy : Attempt path p s t (writeCopy (opened p c) s path t) := by
  by_cases hmemory : untilNul path = "" ∨ untilNul path = ":memory:"
  · rw [writeCopy_in_memory hpath hmemory]
    exact .inMemory hmemory
  · rw [writeCopy_run hpath hmemory]
    cases hspelled : t.spelled? (untilNul path) with
    | none => exact .fails _
    | some q =>
      -- Two ways lead to a new file.
      have hnew : t.node? q ≠ some .directory →
          Attempt path p s t (writeNew (opened p c) s (madeAt path) q t) := by
        intro hfile
        have hlock : (madeAt path).lock? Address.disk = some Address.disk := rfl
        obtain ⟨fault, hrun⟩ | ⟨hne, hrun⟩ := writeNew_cases (a := madeAt path) rfl hlock
        · rw [hrun]
          exact .failsLate fault q
        · rw [hrun]
          exact .writes (fun heq => hmemory (.inr heq)) hspelled hne hfile
      rcases hnode : t.node? q with _ | _ | _ | data
      all_goals
        simp only [hnode]
      · split
        · exact hnew (by simp [hnode])
        · exact .fails _
      · exact .fails _
      · exact .fails _
      · split
        · exact hnew (by simp [hnode])
        · exact .fails _

end Writing

/-- A file in a place holds a snapshot, and a path leads there and spells that place. -/
structure Holds (t : FileTree) (path : String) (p : Place) (s : Snapshot) : Prop where
  isPath : IsPath path
  onDisk : path ≠ ":memory:"
  found : t.find? path = some (p, .file (.snapshot s))
  spelled : t.spelled? path = some p

theorem Holds.ne_nil (h : Holds t path p s) : p ≠ [] :=
  (FileTree.spelled?_eq_some_iff.1 h.spelled).2.1

theorem Holds.node? (h : Holds t path p s) : t.node? p = some (.file (.snapshot s)) :=
  (FileTree.eq_aim_of_find? h.found).2

/-- What is written where a path spells its place is found there, if anything is. -/
theorem holds_put (hpath : IsPath path) (hmemory : path ≠ ":memory:")
    (hspelled : t.spelled? path = some q)
    (hfound : (t.put q (.file (.snapshot s))).find? path = some (p, n)) :
    Holds (t.put q (.file (.snapshot s))) path q s := by
  obtain ⟨hp, hnode⟩ := FileTree.eq_aim_of_find? hfound
  obtain rfl : q = p := (FileTree.eq_aim_of_spelled? hspelled).trans hp.symm
  have hne : q ≠ [] := (FileTree.spelled?_eq_some_iff.1 hspelled).2.1
  rw [FileTree.node?_put_self hne] at hnode
  obtain rfl := Option.some.inj hnode
  have hworking : (t.put q (.file (.snapshot s))).working = t.working := rfl
  exact ⟨hpath, hmemory, hfound, FileTree.spelled?_of_find? hworking hspelled hfound⟩

/-- The snapshot is exchanged for another one. -/
theorem Holds.put {v : Snapshot} (h : Holds t path p s) :
    Holds (t.put p (.file (.snapshot v))) path p v := by
  have hworking : (t.put p (.file (.snapshot v))).working = t.working := rfl
  refine holds_put h.isPath h.onDisk h.spelled
    (FileTree.find?_mono hworking ?_ (FileTree.node?_put_self h.ne_nil) h.found)
  intro r hr
  rwa [FileTree.node?_put_of_ne]
  rintro rfl
  rw [h.node?] at hr
  cases hr

/-- A pass on a file runs on the snapshot in it, and what is left of that is kept. -/
theorem onSnapshot_run {α : Type} {first : Step} {pass : Pass α} (h : Holds t path p s) :
    onSnapshot path first pass t =
      match pass .readWrite s with
      | .ok a v => .ok a (t.put p (.file (.snapshot v)))
      | .error e v => .error e (t.put p (.file (.snapshot v))) := by
  have hempty : path ≠ "" := (FileTree.sayable_of_find? h.found).2.1
  have hhas : t.has path = true := FileTree.has_iff.2 ⟨p, _, h.found⟩
  have hopen := FileTree.openSnapshot_of_file h.isPath hempty h.onDisk h.spelled h.node?
  unfold onSnapshot
  rw [bind_run_of_ok (look_run _)]
  simp only [hhas, if_true]
  rw [bind_run_of_ok (openSnapshot_run_of_file hopen h.node?)]
  have hbegins : ¬ (first = .beginPass ∧ (opened p (.snapshot s)).cannotBegin = true) := by
    rintro ⟨-, hnot⟩
    cases hnot
  change (if first = .beginPass ∧ (opened p (.snapshot s)).cannotBegin = true then _ else _ :
    FileOp α) t = _
  rw [if_neg hbegins]
  change (match pass .readWrite s with | .ok a v => _ | .error e v => _ : FileOp α) t = _
  cases pass .readWrite s with
  | ok a v => rfl
  | error e v => rfl

section Copying
variable (hsource : IsPath source) (hdisk : source ≠ ":memory:") (hdestination : IsPath destination)
  (hfound : t.find? source = some (p, n))

theorem copySnapshot_run (hhas : t.has source = true) (hnew : t.has destination = false) :
    copySnapshot source destination t = (do
      makeParents destination
      match ← openSnapshot source with
      | .error fault => throw (.store (.openSource source) fault)
      | .ok o =>
        match o.snapshot? with
        | none => throw (.store (.writeSnapshot destination) .notASnapshot)
        | some s =>
          if let some fault ← writeCopy o s destination then
            throw (.store (.writeSnapshot destination) fault) : FileOp Unit) t := by
  unfold copySnapshot
  rw [bind_run_of_ok (look_run _)]
  simp only [hhas, if_true]
  rw [bind_run_of_ok (look_run _)]
  simp only [hnew]
  rfl

include hdestination

/-- What goes to memory is not found under its path. -/
theorem has_of_inMemory (hmemory : untilNul destination = "" ∨ untilNul destination = ":memory:")
    (hnew : t.has destination = false) (hparents : makeParents destination t = .ok () u) :
    u.has destination = false := by
  by_cases hsay : FileTree.Sayable destination
  · rw [untilNul_of_sayable hsay] at hmemory
    obtain rfl := hmemory.resolve_left hsay.2.1
    have hnothing : makeParents ":memory:" t = .ok () t := by
      have habove : (FileTree.cleanParts ":memory:").reverse.tail = [] := by decide +kernel
      rw [makeParents, habove]
      rfl
    cases hnothing.symm.trans hparents
    exact hnew
  · rw [Bool.eq_false_iff, ne_eq, FileTree.has_iff]
    rintro ⟨p, n, hfind⟩
    exact hsay (FileTree.sayable_of_find? hfind)

/-- Writing a copy leaves the source alone, and what its path leads to after it is the copy, in
another place. -/
theorem writeCopy_cases {c : Content} (hfound : t.find? source = some (p, .file c))
    (hmemory : untilNul destination = "" ∨ untilNul destination = ":memory:" →
      t.has destination = false) :
    let write : FileOp Unit := do
      if let some fault ← writeCopy (opened p c) s destination then
        throw (.store (.writeSnapshot destination) fault)
    (∃ e u, write t = .error e u ∧ u.find? source = some (p, .file c)) ∨
      ∃ u, write t = .ok () u ∧ u.find? source = some (p, .file c) ∧
        (u.has destination = true → ∃ q, q ≠ p ∧ Holds u destination q s) := by
  intro write
  have hattempt : Attempt destination p s t (writeCopy (opened p c) s destination t) :=
    attempt_writeCopy hdestination
  generalize hwrite : writeCopy (opened p c) s destination t = written at hattempt
  cases hattempt with
  | fails fault => exact .inl ⟨_, t, bind_run_of_ok hwrite, hfound⟩
  | failsLate fault q => exact .inl ⟨_, _, bind_run_of_ok hwrite, FileTree.find?_touch hfound⟩
  | inMemory hinMemory =>
    refine .inr ⟨t, bind_run_of_ok hwrite, hfound, fun hhas => ?_⟩
    rw [hmemory hinMemory] at hhas
    cases hhas
  | @writes q hnot hspelled hne hfile =>
    refine .inr ⟨_, bind_run_of_ok hwrite, FileTree.find?_put hfile hne.symm hfound, fun hhas => ?_⟩
    obtain ⟨r, m, hfind⟩ := FileTree.has_iff.1 hhas
    have hall := untilNul_of_sayable (FileTree.sayable_of_find? hfind)
    rw [hall] at hnot hspelled
    exact ⟨q, hne, holds_put hdestination hnot hspelled hfind⟩

include hsource hdisk hfound

/-- A copy leaves its source alone. Where it goes through and its path leads to something after it,
it is a copy of the source in another place. -/
theorem copySnapshot_cases :
    (∃ e u, copySnapshot source destination t = .error e u ∧ u.find? source = some (p, n)) ∨
    ∃ u, copySnapshot source destination t = .ok () u ∧ u.find? source = some (p, n) ∧
      (u.has destination = true → ∃ c s q, n = .file c ∧ c.snapshot? = some s ∧ q ≠ p ∧
        Holds u destination q s) := by
  have hhas : t.has source = true := FileTree.has_iff.2 ⟨p, n, hfound⟩
  have hempty : source ≠ "" := (FileTree.sayable_of_find? hfound).2.1
  cases hnew : t.has destination with
  | true =>
    refine .inl ⟨.destinationExists destination, t, ?_, hfound⟩
    unfold copySnapshot
    rw [bind_run_of_ok (look_run _)]
    simp only [hhas, if_true]
    rw [bind_run_of_ok (look_run _)]
    simp only [hnew, if_true]
    rfl
  | false =>
    rw [copySnapshot_run hhas hnew]
    have hgrows := growing_makeParents destination t
    cases hparents : makeParents destination t with
    | error e u =>
      rw [hparents] at hgrows
      exact .inl ⟨e, u, bind_run_of_error hparents, hgrows.find? hfound⟩
    | ok done u =>
      rw [hparents] at hgrows
      rw [bind_run_of_ok hparents]
      have hfound' : u.find? source = some (p, n) := hgrows.find? hfound
      obtain ⟨fault, hopen⟩ | ⟨sp, c, hspelled, hnode, hopen⟩ :=
        FileTree.openSnapshot_cases (t := u) hsource hempty hdisk
      · rw [bind_run_of_ok (openSnapshot_run_of_error hopen)]
        exact .inl ⟨_, u, rfl, hfound'⟩
      · obtain ⟨hp, hn⟩ := FileTree.eq_aim_of_find? hfound'
        obtain rfl : p = sp := hp.trans (FileTree.eq_aim_of_spelled? hspelled).symm
        obtain rfl : Node.file c = n := Option.some.inj (hnode.symm.trans hn)
        rw [bind_run_of_ok (openSnapshot_run_of_file hopen hnode)]
        change (∃ e v, (match c.snapshot? with | none => _ | some s => _ : FileOp _) u = _ ∧ _) ∨
          ∃ v, (match c.snapshot? with | none => _ | some s => _ : FileOp _) u = _ ∧ _
        cases hs : c.snapshot? with
        | none => exact .inl ⟨_, u, rfl, hfound'⟩
        | some s =>
          obtain hfails | ⟨v, hrun, hsource', hcopy⟩ :=
            writeCopy_cases (s := s) hdestination hfound'
              fun hmemory => has_of_inMemory hdestination hmemory hnew hparents
          · exact .inl hfails
          · refine .inr ⟨v, hrun, hsource', fun hhas => ?_⟩
            obtain ⟨q, hne, hholds⟩ := hcopy hhas
            exact ⟨c, s, q, rfl, hs, hne, hholds⟩

end Copying
end FileOp
end MailSnapshot
