import MailSnapshot.Proofs.FileTree.Places

/-! Changes of the file tree: what making directories and removing a file leave as it was. -/

namespace MailSnapshot

namespace FileTree
variable {t u v : FileTree} {p q : Place} {n : Node} {path : String}

/-- One tree has everything that the other one has, in its place, and perhaps more directories. -/
structure Grows (t u : FileTree) : Prop where
  working : u.working = t.working
  kept : ∀ q n, t.node? q = some n → u.node? q = some n
  made : ∀ q n, u.node? q = some n → t.node? q = some n ∨ n = .directory

theorem Grows.refl : Grows t t := ⟨rfl, fun _ _ h => h, fun _ _ h => .inl h⟩

theorem Grows.trans (h : Grows t u) (h' : Grows u v) : Grows t v where
  working := h'.working.trans h.working
  kept := fun q n hq => h'.kept q n (h.kept q n hq)
  made := by
    intro q n hq
    rcases h'.made q n hq with hq | rfl
    · exact h.made q n hq
    · exact .inr rfl

theorem Grows.find? (h : Grows t u) (hf : t.find? path = some (p, n)) :
    u.find? path = some (p, n) :=
  find?_mono h.working (fun q => h.kept q _) (h.kept p n (eq_aim_of_find? hf).2) hf

theorem ne_nil_of_node? (h : t.node? p = none) : p ≠ [] := by
  rintro rfl
  cases h

theorem grows_put (h : t.node? p = none) : Grows t (t.put p .directory) where
  working := rfl
  kept := by
    intro q n hq
    rwa [node?_put_of_ne]
    rintro rfl
    rw [h] at hq
    cases hq
  made := by
    intro q n hq
    by_cases heq : q = p
    · subst heq
      rw [node?_put_self (ne_nil_of_node? h)] at hq
      exact .inr (Option.some.inj hq).symm
    · rw [node?_put_of_ne heq] at hq
      exact .inl hq

end FileTree

namespace FileOp
variable {α β : Type} {t u : FileTree} {op : FileOp α} {f : α → FileOp β} {path : String}
  {p : Place} {e : Failure} {a : α} {done : Unit}

/-- The tree that a run leaves, whether it goes through or fails. -/
def left : EStateM.Result Failure FileTree α → FileTree
  | .ok _ t | .error _ t => t

@[simp] theorem pure_run (a : α) : (pure a : FileOp α) t = .ok a t := rfl

@[simp] theorem throw_run (e : Failure) : (throw e : FileOp α) t = .error e t := rfl

@[simp] theorem look_run (g : FileTree → α) : look g t = .ok (g t) t := rfl

theorem bind_run : (op >>= f) t =
    match op t with
    | .ok a u => f a u
    | .error e u => .error e u := by
  change EStateM.bind op f t = _
  unfold EStateM.bind
  cases op t <;> rfl

theorem bind_run_of_ok (h : op t = .ok a u) : (op >>= f) t = f a u := by
  rw [bind_run, h]

theorem bind_run_of_error (h : op t = .error e u) : (op >>= f) t = .error e u := by
  rw [bind_run, h]

/-- An operation that does nothing but make directories. -/
def Growing (op : FileOp α) : Prop := ∀ t : FileTree, t.Grows (left (op t))

theorem growing_pure (a : α) : Growing (pure a : FileOp α) := fun _ => .refl

theorem growing_throw (e : Failure) : Growing (throw e : FileOp α) := fun _ => .refl

theorem growing_look (g : FileTree → α) : Growing (look g) := fun _ => .refl

theorem Growing.bind (hop : Growing op) (hf : ∀ a, Growing (f a)) : Growing (op >>= f) := by
  intro t
  have h := hop t
  rw [bind_run]
  cases hrun : op t with
  | ok a u =>
    rw [hrun] at h
    exact h.trans (hf a u)
  | error e u =>
    rw [hrun] at h
    exact h

theorem growing_makeDirectory (path : String) : Growing (makeDirectory path) := by
  intro t
  unfold makeDirectory
  rw [bind_run, look_run]
  cases hlocate : t.locate path with
  | error e => exact .refl
  | ok found =>
    obtain ⟨p, _ | n⟩ := found
    · exact FileTree.grows_put (FileTree.eq_aim_of_locate hlocate).2.symm
    · exact .refl

theorem growing_ensureDirectory (path : String) : Growing (ensureDirectory path) := by
  refine (growing_makeDirectory path).bind fun fault => ?_
  cases fault with
  | none => exact growing_pure _
  | some e =>
    refine (growing_look _).bind fun there => ?_
    cases there
    · exact growing_throw _
    · exact growing_pure _

theorem growing_makeDirectories (absolute : Bool) (parts : List String) :
    Growing (makeDirectories absolute parts) := by
  induction parts with
  | nil => exact growing_pure _
  | cons part above ih =>
    refine (growing_makeDirectory _).bind fun fault => ?_
    have hthrow : ∀ e : FileFault, Growing (do
        unless ← look (·.isDirectory (FileTree.join absolute (part :: above).reverse)) do
          throw (.file e) : FileOp Unit) := by
      intro e
      refine (growing_look _).bind fun there => ?_
      cases there
      · exact growing_throw _
      · exact growing_pure _
    cases fault with
    | none => exact growing_pure _
    | some e =>
      cases e
      case notFound => exact ih.bind fun _ => growing_ensureDirectory _
      all_goals exact hthrow _

theorem growing_makeParents (path : String) : Growing (makeParents path) :=
  growing_makeDirectories _ _

/-- A file is removed, or the tree stays. -/
theorem removeFile_cases (path : String) (t : FileTree) :
    (∃ p c, t.find? path = some (p, .file c) ∧ removeFile path t = .ok () (t.erase p)) ∨
      (∀ p c, t.find? path ≠ some (p, .file c)) ∧ ∃ e, removeFile path t = .error e t := by
  unfold removeFile
  rw [bind_run, look_run]
  simp only [ne_eq, FileTree.find?_eq_some_iff]
  cases hlocate : t.locate path with
  | error e => exact .inr ⟨by simp, _, rfl⟩
  | ok found =>
    obtain ⟨p, _ | n⟩ := found
    · exact .inr ⟨by simp, _, rfl⟩
    · cases n with
      | directory => exact .inr ⟨by simp, _, rfl⟩
      | file c => exact .inl ⟨p, c, rfl, rfl⟩

theorem removeFile_of_find? {c : Content} (h : t.find? path = some (p, .file c)) :
    removeFile path t = .ok () (t.erase p) := by
  obtain ⟨q, _, hq, hrun⟩ | ⟨hnone, -⟩ := removeFile_cases path t
  · cases h.symm.trans hq
    exact hrun
  · exact absurd h (hnone p c)

end FileOp
end MailSnapshot
