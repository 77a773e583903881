/-
The environment of the transport is set once.

However often the transport is set up in a process, only the first time does anything: it sets the
variables of that profile, each to its value, and leaves all others as they were.

* `Environment.get?_set`, **`Environment.get?_setAll`** — what one assignment, and what a list of
  assignments without repetition, does to each variable;
* `Accelerator.initialiseEach` — setting the transport up several times;
* **`Accelerator.initialised_once`** — only the first time has an effect, and which one.

Design notes: a process may have had a variable already, and assignments do not keep the order of
their list then; so environments are compared by what their variables are, and not as lists.
-/
import Mathlib
import ProfiledSocket.Proofs.Knobs

namespace ProfiledSocket

/-! ### Assignments -/

namespace Environment

/-- A variable that is assigned has the new value, and no other one changes. -/
theorem get?_set (env : Environment) (name value other : String) :
    get? (env.set name value) other = if name = other then some value else get? env other := by
  induction env with
  | nil => simp [set]
  | cons v rest ih =>
    rw [set]
    by_cases hv : v.1 = name
    · subst hv
      by_cases hother : v.1 = other <;> simp [hother]
    · rw [if_neg (by simpa using hv), get?_cons, get?_cons, ih]
      by_cases hother : v.1 = other
      · have hne : name ≠ other := fun hname => hv (hother.trans hname.symm)
        rw [if_pos hother, if_neg hne, if_pos hother]
      · rw [if_neg hother, if_neg hother]

/-- An environment after a list of assignments. -/
def setAll (env : Environment) (entries : List (String × String)) : Environment :=
  entries.foldl (fun env v => env.set v.1 v.2) env

@[simp] theorem setAll_nil (env : Environment) : env.setAll [] = env := rfl

@[simp] theorem setAll_cons (env : Environment) (v : String × String)
    (entries : List (String × String)) :
    env.setAll (v :: entries) = (env.set v.1 v.2).setAll entries := rfl

/-- A variable that no entry names has no value there. -/
theorem get?_eq_none_of_not_mem {entries : Environment} {name : String}
    (h : name ∉ entries.map Prod.fst) : get? entries name = none := by
  induction entries with
  | nil => rfl
  | cons v rest ih =>
    rw [List.map_cons, List.mem_cons, not_or] at h
    rw [get?_cons, if_neg (Ne.symm h.1), ih h.2]

/-- An entry is what is looked up, if no variable has two of them. -/
theorem get?_eq_some_of_mem {entries : Environment} {name value : String}
    (hnodup : (entries.map Prod.fst).Nodup) (h : (name, value) ∈ entries) :
    get? entries name = some value := by
  induction entries with
  | nil => cases h
  | cons v rest ih =>
    rw [List.map_cons, List.nodup_cons] at hnodup
    obtain rfl | h := List.mem_cons.1 h
    · rw [get?_cons, if_pos rfl]
    · have hne : v.1 ≠ name := fun hname =>
        hnodup.1 (hname ▸ List.mem_map_of_mem (f := Prod.fst) h)
      rw [get?_cons, if_neg hne, ih hnodup.2 h]

/-- **After assignments without repetition** each variable has the value that it is assigned, or
else the one that it had. -/
theorem get?_setAll {entries : Environment} (hnodup : (entries.map Prod.fst).Nodup)
    (env : Environment) (name : String) :
    get? (env.setAll entries) name = (get? entries name).or (get? env name) := by
  induction entries generalizing env with
  | nil => rw [setAll_nil, get?_nil, Option.none_or]
  | cons v rest ih =>
    rw [List.map_cons, List.nodup_cons] at hnodup
    rw [setAll_cons, ih hnodup.2, get?_set, get?_cons]
    by_cases hname : v.1 = name
    · -- no later assignment is to the same variable
      rw [if_pos hname, if_pos hname, get?_eq_none_of_not_mem (hname ▸ hnodup.1)]
      rfl
    · rw [if_neg hname, if_neg hname]

end Environment

/-- An environment is as before, but for the variables of a profile, which have their values. -/
structure Profile.Exported (p : Profile) (before after : Environment) : Prop where
  listed : ∀ name value, (name, value) ∈ p.knobs → after.get? name = some value
  unlisted : ∀ name, name ∉ p.knobs.map Prod.fst → after.get? name = before.get? name

/-- To assign its variables exports a profile. -/
theorem Profile.exported_setAll (p : Profile) (env : Environment) :
    p.Exported env (env.setAll p.knobs) where
  listed name value h := by
    rw [Environment.get?_setAll p.knobs_nodup, Environment.get?_eq_some_of_mem p.knobs_nodup h]
    rfl
  unlisted name h := by
    rw [Environment.get?_setAll p.knobs_nodup, Environment.get?_eq_none_of_not_mem h]
    rfl

/-! ### Setting the transport up -/

namespace Accelerator

/-- Sets the transport up for one profile after the other. Each time it is told whether anything was
set, and what the process is like then. -/
def initialiseEach (a : Accelerator) : List Profile → List (Bool × Accelerator)
  | [] => []
  | p :: later =>
    let (result, next, _) := a.initialise p
    (result, next) :: next.initialiseEach later

variable {a : Accelerator}

/-- The first time, the variables of the profile are assigned. -/
theorem initialise_first (h : a.initialised = false) (p : Profile) :
    (a.initialise p).1 = true ∧
      (a.initialise p).2.1 = ⟨a.environment.setAll p.knobs, true⟩ := by
  rw [initialise, if_neg (by simp [h])]
  exact ⟨rfl, rfl⟩

/-- Later nothing changes. -/
theorem initialise_later (h : a.initialised = true) (p : Profile) :
    (a.initialise p).1 = false ∧ (a.initialise p).2.1 = a := by
  rw [initialise, if_pos h]
  exact ⟨rfl, rfl⟩

theorem initialiseEach_cons (p : Profile) (later : List Profile) :
    a.initialiseEach (p :: later) =
      ((a.initialise p).1, (a.initialise p).2.1) :: (a.initialise p).2.1.initialiseEach later := rfl

/-- Once it is set up, the transport stays as it is, for whatever profiles. -/
theorem initialiseEach_later (h : a.initialised = true) (profiles : List Profile) :
    a.initialiseEach profiles = List.replicate profiles.length (false, a) := by
  induction profiles with
  | nil => rfl
  | cons p later ih =>
    obtain ⟨hresult, hnext⟩ := initialise_later h p
    rw [initialiseEach_cons, hresult, hnext, ih, List.length_cons, List.replicate_succ]

/-- **The environment of the transport is set once.**  In a process in which it is not set up, with
whatever environment, let it be set up for one profile and then for any others.  The first time is
the only one that is told to have set something.  After each of them every variable of the first
profile has the value that this profile gives it, and every other variable has the value that it
had in the beginning, or none if it had none. -/
theorem initialised_once (env : Environment) (first : Profile) (later : List Profile) :
    (initialiseEach ⟨env, false⟩ (first :: later)).map Prod.fst =
      true :: List.replicate later.length false ∧
    ∀ outcome ∈ initialiseEach ⟨env, false⟩ (first :: later),
      first.Exported env outcome.2.environment := by
  obtain ⟨hresult, hnext⟩ := initialise_first (a := ⟨env, false⟩) rfl first
  rw [initialiseEach_cons, hresult, hnext, initialiseEach_later rfl]
  refine ⟨by rw [List.map_cons, List.map_replicate], fun outcome houtcome => ?_⟩
  -- whichever time it was, the process is as the first one left it
  have hsame : outcome.2 = ⟨env.setAll first.knobs, true⟩ := by
    obtain rfl | houtcome := List.mem_cons.1 houtcome
    · rfl
    · rw [List.eq_of_mem_replicate houtcome]
  rw [hsame]
  exact first.exported_setAll env

end Accelerator

end ProfiledSocket
