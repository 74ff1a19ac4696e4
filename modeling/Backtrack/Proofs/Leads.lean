import Backtrack.Machine.Basic

/-!
Where an action leads. `Leads action machine good bad` says of the one run of an action from a
machine that it either ends with a result and a state that are `good`, or faults with a fault and a
state that are `bad`. The laws below take an action apart, so that a statement about an instruction
becomes one about the state it started in.
-/

namespace Backtrack.Action

variable {α β : Type} {good : α → Machine → Prop} {bad : Fault → Machine → Prop} {machine : Machine}

def Leads (action : Action α) (machine : Machine) (good : α → Machine → Prop)
    (bad : Fault → Machine → Prop) : Prop :=
  match action machine with
  | .ok result after => good result after
  | .error fault after => bad fault after

theorem Leads.ended {action : Action α} {result : α} {after : Machine}
    (leads : action.Leads machine good bad) (ended : action machine = .ok result after) :
    good result after := by
  simpa only [Leads, ended] using leads

theorem Leads.faulted {action : Action α} {fault : Fault} {after : Machine}
    (leads : action.Leads machine good bad) (faulted : action machine = .error fault after) :
    bad fault after := by
  simpa only [Leads, faulted] using leads

theorem Leads.mono {action : Action α} {good' : α → Machine → Prop} {bad' : Fault → Machine → Prop}
    (leads : action.Leads machine good bad)
    (better : ∀ result after, good result after → good' result after)
    (worse : ∀ fault after, bad fault after → bad' fault after) :
    action.Leads machine good' bad' := by
  unfold Leads at leads ⊢
  split
  · next ended => exact better _ _ (by simpa only [ended] using leads)
  · next faulted => exact worse _ _ (by simpa only [faulted] using leads)

theorem leads_and {action : Action α} {good' : α → Machine → Prop}
    {bad' : Fault → Machine → Prop} :
    action.Leads machine (fun result after => good result after ∧ good' result after)
        (fun fault after => bad fault after ∧ bad' fault after) ↔
      action.Leads machine good bad ∧ action.Leads machine good' bad' := by
  unfold Leads
  split <;> rfl

/-- Two runs that lead to the same have the same outcome. -/
theorem eq_of_leads {first second : Action α} {start : Machine}
    (same : ∀ good bad, second.Leads start good bad → first.Leads machine good bad) :
    first machine = second start := by
  have leads := same (fun result after => .ok result after = second start)
    (fun fault after => .error fault after = second start) (by
      unfold Leads
      split
      · next ended => exact ended.symm
      · next faulted => exact faulted.symm)
  unfold Leads at leads
  split at leads
  · next ended => rw [ended, leads]
  · next faulted => rw [faulted, leads]

@[simp] theorem leads_pure {result : α} :
    (pure result : Action α).Leads machine good bad ↔ good result machine := Iff.rfl

@[simp] theorem leads_bind {first : Action β} {next : β → Action α} :
    (first >>= next).Leads machine good bad ↔
      first.Leads machine (fun result after => (next result).Leads after good bad) bad := by
  simp only [Leads, bind, EStateM.bind]
  cases first machine <;> rfl

@[simp] theorem leads_throw {fault : Fault} :
    (throw fault : Action α).Leads machine good bad ↔ bad fault machine := Iff.rfl

@[simp] theorem leads_get {good : Machine → Machine → Prop} :
    (get : Action Machine).Leads machine good bad ↔ good machine machine := Iff.rfl

@[simp] theorem leads_modify {change : Machine → Machine} {good : Unit → Machine → Prop} :
    (modify change : Action Unit).Leads machine good bad ↔ good () (change machine) := Iff.rfl

@[simp] theorem leads_modifyGet {change : Machine → α × Machine} :
    (modifyGet change : Action α).Leads machine good bad ↔
      good (change machine).1 (change machine).2 := Iff.rfl

@[simp] theorem leads_ofExcept {result : Except Fault α} :
    (ofExcept result).Leads machine good bad ↔
      (∀ value, result = .ok value → good value machine) ∧
        ∀ fault, result = .error fault → bad fault machine := by
  cases result <;> simp [ofExcept]

@[simp] theorem leads_ensure {rule : Prop} [Decidable rule] {fault : Fault}
    {good : Unit → Machine → Prop} :
    (ensure rule fault).Leads machine good bad ↔
      (rule → good () machine) ∧ (¬ rule → bad fault machine) := by
  unfold ensure
  split <;> simp [*]

end Backtrack.Action
