import Mathlib.Data.List.Induction
import Mathlib.Data.Set.Basic
import Mathlib.Order.WellFounded

/-!
# Runs of a step function

A system is a step function from a state and an action to a state; a step that is not
enabled returns `none`.  `exec` runs a list of actions, and two rules turn a step lemma
into a run lemma: `invariant_of_step` for a property of the state, `history_of_step` for a
property of the state and the actions that led to it.

`forall_state_iff` says that a property holds in every state of a run exactly when no step
of the run is bad, where a bad step is one that destroys the property; `forall_prefix_iff`
is the case of a step function that is always enabled.  `exec_project` is about a part of a
system, and `exists_not_busy` and `exists_forever` are about runs that go on forever.
`observed` puts an observer beside a system, who notes what the steps do, so that a property
can speak of the notes.
-/

set_option autoImplicit false

namespace Runs

universe u v

/-- Where a step of a run can stand when one action is added at the end: it is the new
action, or it stands in the run before. -/
theorem concat_eq_append_cons_iff {α : Type v} {as pre post : List α} {a b : α} :
    as ++ [a] = pre ++ b :: post ↔
      (as = pre ∧ a = b ∧ post = []) ∨ ∃ rest, post = rest ++ [a] ∧ as = pre ++ b :: rest := by
  rcases List.eq_nil_or_concat post with rfl | ⟨rest, last, rfl⟩
  · simp
  · rw [List.concat_eq_append, ← List.cons_append, ← List.append_assoc]
    constructor
    · intro heq
      obtain ⟨hinit, hlast⟩ := List.append_inj' heq rfl
      rw [List.singleton_inj] at hlast
      exact Or.inr ⟨rest, by rw [hlast], hinit⟩
    · rintro (⟨-, -, hnil⟩ | ⟨rest', hpost, hinit⟩)
      · simp at hnil
      · obtain ⟨rfl, hlast⟩ := List.append_inj' hpost rfl
        rw [hinit, hlast]

section Partial

variable {σ : Type u} {α : Type v}

/-- The state after a list of actions, if every one of them is enabled. -/
def exec (step : σ → α → Option σ) (s : σ) : List α → Option σ
  | [] => some s
  | a :: as => (step s a).bind fun s' => exec step s' as

variable {step : σ → α → Option σ}

/-- Without an action nothing happens. -/
@[simp] theorem exec_nil (s : σ) : exec step s [] = some s := rfl

/-- A run takes its first step first. -/
theorem exec_cons (s : σ) (a : α) (as : List α) :
    exec step s (a :: as) = (step s a).bind fun s' => exec step s' as := rfl

/-- A run in two parts. -/
theorem exec_append (s : σ) (as bs : List α) :
    exec step s (as ++ bs) = (exec step s as).bind fun s' => exec step s' bs := by
  induction as generalizing s with
  | nil => rfl
  | cons a as ih =>
    rw [List.cons_append, exec_cons, exec_cons, Option.bind_assoc]
    simp only [ih]

/-- A run with one more step. -/
theorem exec_concat (s : σ) (as : List α) (a : α) :
    exec step s (as ++ [a]) = (exec step s as).bind fun s' => step s' a := by
  rw [exec_append]
  congr 1
  funext s'
  rw [exec_cons]
  cases step s' a <;> rfl

/-- A run that ends in a step: the run before it and the step. -/
theorem exec_concat_eq_some {s s' : σ} {as : List α} {a : α} :
    exec step s (as ++ [a]) = some s' ↔
      ∃ mid, exec step s as = some mid ∧ step mid a = some s' := by
  rw [exec_concat, Option.bind_eq_some_iff]

/-- Every prefix of a run is a run. -/
theorem exec_prefix {s s' : σ} {as bs : List α} (h : exec step s (as ++ bs) = some s') :
    ∃ mid, exec step s as = some mid ∧ exec step mid bs = some s' := by
  rwa [exec_append, Option.bind_eq_some_iff] at h

/-- **The invariant rule.** -/
theorem invariant_of_step {Inv : σ → Prop} {s : σ} (hinit : Inv s)
    (hstep : ∀ s a s', Inv s → step s a = some s' → Inv s')
    {as : List α} {s' : σ} (h : exec step s as = some s') : Inv s' := by
  induction as generalizing s with
  | nil =>
    obtain rfl := Option.some.inj h
    exact hinit
  | cons a as ih =>
    rw [exec_cons, Option.bind_eq_some_iff] at h
    obtain ⟨mid, hmid, hrest⟩ := h
    exact ih (hstep s a mid hinit hmid) hrest

/-- **The invariant rule with the history**: the invariant may speak of the actions that
led to the state. -/
theorem history_of_step {Inv : List α → σ → Prop} {s : σ} (hinit : Inv [] s)
    (hstep : ∀ as mid a s', exec step s as = some mid → Inv as mid → step mid a = some s' →
      Inv (as ++ [a]) s')
    {as : List α} {s' : σ} (h : exec step s as = some s') : Inv as s' := by
  induction as using List.reverseRecOn generalizing s' with
  | nil =>
    obtain rfl := Option.some.inj h
    exact hinit
  | append_singleton as a ih =>
    obtain ⟨mid, hmid, hlast⟩ := exec_concat_eq_some.mp h
    exact hstep as mid a s' hmid (ih hmid) hlast

/-- **A part of a system runs by itself**: when each step is a step of the part or leaves the
part alone, a run of the system is a run of the part. -/
theorem exec_project {τ : Type u} {β : Type v} (part : τ → β → Option τ) (π : σ → τ)
    (f : α → Option β)
    (hstep : ∀ s a s', step s a = some s' →
      (f a = none ∧ π s' = π s) ∨ ∃ b, f a = some b ∧ part (π s) b = some (π s'))
    {s s' : σ} {as : List α} (h : exec step s as = some s') :
    exec part (π s) (as.filterMap f) = some (π s') := by
  induction as generalizing s with
  | nil =>
    obtain rfl := Option.some.inj h
    rfl
  | cons a as ih =>
    rw [exec_cons, Option.bind_eq_some_iff] at h
    obtain ⟨mid, hmid, hrest⟩ := h
    obtain ⟨hnone, hsame⟩ | ⟨b, hb, hpart⟩ := hstep s a mid hmid
    · rw [List.filterMap_cons_none hnone, ← hsame]
      exact ih hrest
    · rw [List.filterMap_cons_some hb, exec_cons, hpart]
      exact ih hrest

/-- A run that ends where some action changes nothing goes on forever with that action. -/
theorem exists_forever {s s' : σ} {as : List α} {idle : α} (h : exec step s as = some s')
    (hidle : step s' idle = some s') :
    ∃ states : ℕ → σ, states 0 = s ∧
      (∀ n, step (states n) ((as[n]?).getD idle) = some (states (n + 1))) ∧
        ∀ n, as.length ≤ n → states n = s' := by
  induction as generalizing s with
  | nil =>
    obtain rfl := Option.some.inj h
    exact ⟨fun _ => s, rfl, fun n => hidle, fun n _ => rfl⟩
  | cons a as ih =>
    rw [exec_cons, Option.bind_eq_some_iff] at h
    obtain ⟨mid, hmid, hrest⟩ := h
    obtain ⟨states, hstart, hsteps, hend⟩ := ih hrest
    refine ⟨fun n => n.casesOn s states, rfl, ?_, ?_⟩
    · intro n
      cases n with
      | zero =>
        show step s a = some (states 0)
        rw [hstart, hmid]
      | succ n => exact hsteps n
    · intro n hn
      cases n with
      | zero => cases hn
      | succ n => exact hend n (Nat.le_of_succ_le_succ hn)

/-- **A property holds in every state of a run exactly when no step of the run is bad.**
A bad step is one that destroys the property; `I` is an invariant of every run that the two
directions may use. -/
theorem forall_state_iff {I P : σ → Prop} {Bad : σ → α → Prop} {s s' : σ} (hI : I s)
    (hP : P s) (hkeep : ∀ s a s', I s → step s a = some s' → I s')
    (hstep : ∀ s a s', I s → P s → step s a = some s' → (P s' ↔ ¬ Bad s a))
    {as : List α} (h : exec step s as = some s') :
    (∀ pre post mid, as = pre ++ post → exec step s pre = some mid → P mid) ↔
      ∀ pre a post mid, as = pre ++ a :: post → exec step s pre = some mid → ¬ Bad mid a := by
  induction as generalizing s with
  | nil =>
    constructor
    · intro _ pre a post mid heq
      simp at heq
    · intro _ pre post mid heq hmid
      obtain ⟨rfl, rfl⟩ := List.append_eq_nil_iff.mp heq.symm
      obtain rfl := Option.some.inj hmid
      exact hP
  | cons a as ih =>
    rw [exec_cons, Option.bind_eq_some_iff] at h
    obtain ⟨next, hnext, hrest⟩ := h
    have hcons : ∀ pre mid, exec step s (a :: pre) = some mid ↔
        exec step next pre = some mid := by
      intro pre mid
      rw [exec_cons, hnext, Option.bind_some]
    have hiff := hstep s a next hI hP hnext
    constructor
    · intro hall pre b post mid heq hmid
      have hP' : P next := hall [a] as next rfl ((hcons [] next).mpr rfl)
      cases pre with
      | nil =>
        obtain ⟨rfl, rfl⟩ := List.cons.inj heq
        obtain rfl := Option.some.inj hmid
        exact hiff.mp hP'
      | cons c pre =>
        obtain ⟨rfl, rfl⟩ := List.cons.inj heq
        refine (ih (hkeep s a next hI hnext) hP' hrest).mp ?_ pre b post mid rfl
          ((hcons pre mid).mp hmid)
        intro pre' post' mid' heq' hmid'
        exact hall (a :: pre') post' mid' (by rw [heq', List.cons_append])
          ((hcons pre' mid').mpr hmid')
    · intro hgood pre post mid heq hmid
      have hP' : P next := hiff.mpr (hgood [] a as s rfl rfl)
      cases pre with
      | nil =>
        obtain rfl := Option.some.inj hmid
        exact hP
      | cons c pre =>
        obtain ⟨rfl, rfl⟩ := List.cons.inj heq
        refine (ih (hkeep s a next hI hnext) hP' hrest).mpr ?_ pre post mid rfl
          ((hcons pre mid).mp hmid)
        intro pre' b post' mid' heq' hmid'
        exact hgood (a :: pre') b post' mid' (by rw [heq', List.cons_append])
          ((hcons pre' mid').mpr hmid')

end Partial

/-! ## Runs that go on forever -/

section Fair

universe w

variable {σ : Type u} {α : Type v} {β : Type w} {step : σ → α → Option σ}

/-- **The rule for fair runs**: while the system is busy, a helpful step lowers a well-founded
rank and the other steps keep it.  So it is not busy forever, if helpful steps go on. -/
theorem exists_not_busy {r : β → β → Prop} (hr : WellFounded r) (rank : σ → β)
    {Busy : σ → Prop} {Helpful : α → Prop}
    (hhelpful : ∀ s a s', Busy s → Busy s' → step s a = some s' → Helpful a →
      r (rank s') (rank s))
    (hother : ∀ s a s', Busy s → Busy s' → step s a = some s' → ¬ Helpful a →
      rank s' = rank s)
    {states : ℕ → σ} {actions : ℕ → α}
    (hrun : ∀ n, step (states n) (actions n) = some (states (n + 1)))
    (hfair : ∀ n, ∃ m, n ≤ m ∧ Helpful (actions m)) : ∃ n, ¬ Busy (states n) := by
  by_contra hbusy
  have hall : ∀ n, Busy (states n) := fun n => not_not.mp (not_exists.mp hbusy n)
  obtain ⟨-, ⟨n, rfl⟩, hmin⟩ :=
    hr.has_min (Set.range fun n => rank (states n)) ⟨rank (states 0), 0, rfl⟩
  obtain ⟨m, hle, hhelp⟩ := hfair n
  -- from the least rank on, no step up to a helpful one may lower it
  have hkept : ∀ k, n ≤ k → rank (states k) = rank (states n) := by
    intro k hk
    induction k, hk using Nat.le_induction with
    | base => rfl
    | succ k hk ih =>
      by_cases hhelpful' : Helpful (actions k)
      · have hlower := hhelpful _ _ _ (hall k) (hall (k + 1)) (hrun k) hhelpful'
        rw [ih] at hlower
        exact absurd hlower (hmin _ ⟨k + 1, rfl⟩)
      · exact (hother _ _ _ (hall k) (hall (k + 1)) (hrun k) hhelpful').trans ih
  have hlower := hhelpful _ _ _ (hall m) (hall (m + 1)) (hrun m) hhelp
  rw [hkept m hle] at hlower
  exact hmin _ ⟨m + 1, rfl⟩ hlower

end Fair

/-! ## Keeping notes along a run -/

section Observed

universe w

variable {σ : Type u} {α : Type v} {γ : Type w}

/-- The step of a system with an observer beside it, who reads the state and the action of
every step and changes nothing. -/
def observed (step : σ → α → Option σ) (note : γ → σ → α → γ) (p : γ × σ) (a : α) :
    Option (γ × σ) :=
  (step p.2 a).map fun s' => (note p.1 p.2 a, s')

variable {step : σ → α → Option σ} {note : γ → σ → α → γ}

/-- A step with an observer: the step, and what is noted of it. -/
theorem observed_eq_some {p p' : γ × σ} {a : α} :
    observed step note p a = some p' ↔ step p.2 a = some p'.2 ∧ p'.1 = note p.1 p.2 a := by
  rw [observed, Option.map_eq_some_iff]
  constructor
  · rintro ⟨s', hs', rfl⟩
    exact ⟨hs', rfl⟩
  · rintro ⟨hs', hnote⟩
    exact ⟨p'.2, hs', by rw [← hnote]⟩

/-- **The observer does not disturb the run.** -/
theorem map_snd_exec_observed (g : γ) (s : σ) (as : List α) :
    (exec (observed step note) (g, s) as).map Prod.snd = exec step s as := by
  induction as generalizing g s with
  | nil => rfl
  | cons a as ih =>
    rw [exec_cons, exec_cons, observed]
    cases step s a with
    | none => rfl
    | some s' => exact ih (note g s a) s'

/-- Every run has its notes. -/
theorem exists_exec_observed {s s' : σ} {as : List α} (h : exec step s as = some s')
    (note : γ → σ → α → γ) (g : γ) :
    ∃ g', exec (observed step note) (g, s) as = some (g', s') := by
  rw [← map_snd_exec_observed g, Option.map_eq_some_iff] at h
  obtain ⟨⟨g', s''⟩, hrun, rfl⟩ := h
  exact ⟨g', hrun⟩

/-- **The invariant rule with notes**: the invariant speaks of the notes and the state. -/
theorem invariant_of_observed {Inv : γ → σ → Prop} {g g' : γ} {s s' : σ} (hinit : Inv g s)
    (hstep : ∀ g s a s', Inv g s → step s a = some s' → Inv (note g s a) s')
    {as : List α} (h : exec (observed step note) (g, s) as = some (g', s')) : Inv g' s' := by
  induction as generalizing g s with
  | nil =>
    obtain ⟨rfl, rfl⟩ := Prod.mk.inj (Option.some.inj h)
    exact hinit
  | cons a as ih =>
    rw [exec_cons, Option.bind_eq_some_iff] at h
    obtain ⟨⟨gmid, mid⟩, hmid, hrest⟩ := h
    obtain ⟨hs, hnote⟩ := observed_eq_some.mp hmid
    obtain rfl : gmid = note g s a := hnote
    exact ih (hstep g s a mid hinit hs) hrest

end Observed

section Total

variable {σ : Type u} {α : Type v} {f : σ → α → σ}

/-- A total step function is always enabled. -/
theorem exec_total (s : σ) (as : List α) :
    exec (fun s a => some (f s a)) s as = some (as.foldl f s) := by
  induction as generalizing s with
  | nil => rfl
  | cons a as ih => exact ih (f s a)

/-- The same rule for a total step function. -/
theorem forall_prefix_iff {I P : σ → Prop} {Bad : σ → α → Prop} {s : σ} (hI : I s)
    (hP : P s) (hkeep : ∀ s a, I s → I (f s a))
    (hstep : ∀ s a, I s → P s → (P (f s a) ↔ ¬ Bad s a)) (as : List α) :
    (∀ pre post, as = pre ++ post → P (pre.foldl f s)) ↔
      ∀ pre a post, as = pre ++ a :: post → ¬ Bad (pre.foldl f s) a := by
  have hiff : (∀ pre post mid, as = pre ++ post →
        exec (fun s a => some (f s a)) s pre = some mid → P mid) ↔
      ∀ pre a post mid, as = pre ++ a :: post →
        exec (fun s a => some (f s a)) s pre = some mid → ¬ Bad mid a :=
    forall_state_iff hI hP (fun s a s' h heq => Option.some.inj heq ▸ hkeep s a h)
      (fun s a s' h hP heq => Option.some.inj heq ▸ hstep s a h hP) (exec_total s as)
  simp only [exec_total, Option.some.injEq] at hiff
  constructor
  · intro hall pre a post heq
    exact hiff.mp (fun pre post mid h hmid => hmid ▸ hall pre post h) pre a post _ heq rfl
  · intro hgood pre post heq
    exact hiff.mpr (fun pre a post mid h hmid => hmid ▸ hgood pre a post h) pre post _ heq rfl

end Total

end Runs
