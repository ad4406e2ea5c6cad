/-
**Traces and runs.**

A trace lists what happened, newest first. `Always P` holds of a trace when every entry of it has
property `P` of itself and of what came before it; it is closed under forgetting the newest entries,
so an assumption of this form on the trace at the end of a run holds at every point of the run.

* `along` — **the invariant rule**: a property kept by every step whose trace meets the assumption
  is kept along a chain of steps whose last trace meets it.
* `chain_keeps` — an invariant of a step is one of a chain of steps.
* `foldlM_chain` — a loop whose body is a chain of steps is a chain of steps.
* `foldlM_keeps` — an invariant of the body is an invariant of a loop that returns.
* `foldlM_only` — a loop that does something at one item does that and nothing else.
* `eq_of_read_once` — what is read off a trace without repetition comes from one entry each.
* `Lockstep` — two computations that both fail or both return related states, and the rules by
  which sequencing, branching and loops keep that.
-/

import Mathlib.Logic.Relation
import Mathlib.Data.List.Infix

namespace Trace

open Relation

section Always

variable {α : Type}

/-- Every entry has property `P` of itself and of what was before it. -/
def Always (P : α → List α → Prop) : List α → Prop
  | [] => True
  | entry :: earlier => P entry earlier ∧ Always P earlier

instance decidableAlways (P : α → List α → Prop) [∀ entry earlier, Decidable (P entry earlier)] :
    (trace : List α) → Decidable (Always P trace)
  | [] => .isTrue trivial
  | entry :: earlier =>
    have := decidableAlways P earlier
    inferInstanceAs (Decidable (P entry earlier ∧ Always P earlier))

@[simp] theorem always_nil (P : α → List α → Prop) : Always P [] := trivial

@[simp] theorem always_cons {P : α → List α → Prop} {entry : α} {earlier : List α} :
    Always P (entry :: earlier) ↔ P entry earlier ∧ Always P earlier := Iff.rfl

/-- **The assumption holds at every earlier point.** -/
theorem Always.of_suffix {P : α → List α → Prop} {before after : List α}
    (suffix : before <:+ after) (always : Always P after) : Always P before := by
  obtain ⟨later, rfl⟩ := suffix
  induction later with
  | nil => exact always
  | cons entry later ih => exact ih always.2

/-- The entry at any point of the trace. -/
theorem Always.at {P : α → List α → Prop} {later earlier : List α} {entry : α}
    (always : Always P (later ++ entry :: earlier)) : P entry earlier :=
  (always.of_suffix (List.suffix_append later _)).1

/-- New entries that have the property whatever came before them. -/
theorem Always.append {P : α → List α → Prop} {trace : List α} (always : Always P trace) :
    ∀ {new : List α}, (∀ entry ∈ new, ∀ earlier, P entry earlier) → Always P (new ++ trace)
  | [], _ => always
  | entry :: _, each => ⟨each entry List.mem_cons_self _,
      always.append fun other member => each other (List.mem_cons_of_mem _ member)⟩

theorem Always.mono {P Q : α → List α → Prop} (weaker : ∀ entry earlier, P entry earlier →
    Q entry earlier) : ∀ {trace : List α}, Always P trace → Always Q trace
  | [], _ => trivial
  | _ :: _, always => ⟨weaker _ _ always.1, always.2.mono weaker⟩

/-- **What is read off a trace without repetition** comes from one entry each. -/
theorem eq_of_read_once {β : Type} {read : α → Option β} {trace : List α}
    (once : (trace.filterMap read).Nodup) {entry other : α} (member : entry ∈ trace)
    (member' : other ∈ trace) {value : β} (isValue : read entry = some value)
    (isValue' : read other = some value) : entry = other := by
  induction trace with
  | nil => cases member
  | cons first rest ih =>
    have apart : read first = some value → ∀ later ∈ rest, read later ≠ some value := by
      intro isFirst later inRest isLater
      rw [List.filterMap_cons, isFirst] at once
      exact (List.nodup_cons.mp once).1 (List.mem_filterMap.mpr ⟨later, inRest, isLater⟩)
    rcases List.mem_cons.mp member with rfl | inRest
    · rcases List.mem_cons.mp member' with rfl | inRest'
      · rfl
      · exact absurd isValue' (apart isValue other inRest')
    · rcases List.mem_cons.mp member' with rfl | inRest'
      · exact absurd isValue (apart isValue' entry inRest)
      · refine ih (once.sublist ?_) inRest inRest'
        exact (List.sublist_cons_self first rest).filterMap read

end Always

section Chains

variable {σ α β : Type}

/-- **The invariant rule.** -/
theorem along (step : σ → σ → Prop) (trace : σ → List α) {meets : List α → Prop}
    {holds : σ → Prop} (grows : ∀ s s', step s s' → trace s <:+ trace s')
    (closed : ∀ before after, before <:+ after → meets after → meets before)
    (keeps : ∀ s s', step s s' → meets (trace s') → holds s → holds s') {s s' : σ}
    (chain : ReflTransGen step s s') : meets (trace s') → holds s → holds s' := by
  induction chain with
  | refl => exact fun _ held => held
  | tail _ last ih =>
    intro met held
    exact keeps _ _ last met (ih (closed _ _ (grows _ _ last) met) held)

/-- A chain of growing steps grows. -/
theorem chain_grows (step : σ → σ → Prop) (trace : σ → List α)
    (grows : ∀ s s', step s s' → trace s <:+ trace s') {s s' : σ}
    (chain : ReflTransGen step s s') : trace s <:+ trace s' := by
  induction chain with
  | refl => exact List.suffix_refl _
  | tail _ last ih => exact ih.trans (grows _ _ last)

/-- What a step keeps, a chain of steps keeps. -/
theorem chain_keeps {step : σ → σ → Prop} (holds : σ → Prop)
    (keeps : ∀ s s', holds s → step s s' → holds s') {s s' : σ} (held : holds s)
    (chain : ReflTransGen step s s') : holds s' := by
  induction chain with
  | refl => exact held
  | tail _ last ih => exact keeps _ _ ih last

/-- **A loop is a chain of steps** when its body is one from every state with the invariant. What
the body achieves for its item, and never undoes, holds of every item at the end. -/
theorem foldlM_chain {step : σ → σ → Prop} (holds : σ → Prop) (done : β → σ → Prop)
    (body : σ → β → Option σ)
    (each : ∀ s item, holds s → ∃ s', body s item = some s' ∧ ReflTransGen step s s' ∧ holds s' ∧
      done item s' ∧ ∀ other, done other s → done other s')
    (items : List β) : ∀ s, holds s →
      ∃ s', items.foldlM body s = some s' ∧ ReflTransGen step s s' ∧ holds s' ∧
        (∀ item ∈ items, done item s') ∧ ∀ other, done other s → done other s' := by
  induction items with
  | nil => exact fun s held => ⟨s, rfl, .refl, held, nofun, fun _ before => before⟩
  | cons item items ih =>
    intro s held
    obtain ⟨middle, first, chain, heldMiddle, doneItem, keeps⟩ := each s item held
    obtain ⟨s', rest, chain', heldLast, doneRest, keeps'⟩ := ih middle heldMiddle
    refine ⟨s', ?_, chain.trans chain', heldLast, fun other member => ?_,
      fun other before => keeps' other (keeps other before)⟩
    · rw [List.foldlM_cons, first]
      exact rest
    · rcases List.mem_cons.mp member with rfl | later
      · exact keeps' other doneItem
      · exact doneRest other later

/-- A loop that returns keeps what its body keeps. -/
theorem foldlM_keeps {holds : σ → Prop} {body : σ → β → Option σ}
    (each : ∀ s item s', holds s → body s item = some s' → holds s') (items : List β) :
    ∀ {s s' : σ}, holds s → items.foldlM body s = some s' → holds s' := by
  induction items with
  | nil =>
    intro s s' held done
    cases done
    exact held
  | cons item items ih =>
    intro s s' held done
    rw [List.foldlM_cons] at done
    obtain ⟨middle, first, rest⟩ := Option.bind_eq_some_iff.mp done
    exact ih (each s item middle held first) rest

/-- **A loop that does something at one item only.** -/
theorem foldlM_only [DecidableEq β] (change : σ → Option σ) {target : β} {items : List β}
    (once : items.Nodup) (member : target ∈ items) (s : σ) :
    items.foldlM (fun s item => if item = target then change s else some s) s = change s := by
  have idle : ∀ (rest : List β), target ∉ rest → ∀ s : σ,
      rest.foldlM (fun s item => if item = target then change s else some s) s = some s := by
    intro rest absent s
    induction rest with
    | nil => rfl
    | cons item rest ih =>
      have other : item ≠ target := fun same => absent (same ▸ List.mem_cons_self)
      rw [List.foldlM_cons, if_neg other]
      exact ih fun later => absent (List.mem_cons_of_mem _ later)
  obtain ⟨before, after, rfl⟩ := List.append_of_mem member
  have apart := List.nodup_append.mp once
  rw [List.foldlM_append,
    idle before fun isItem => apart.2.2 target isItem target List.mem_cons_self rfl,
    Option.bind_eq_bind, Option.bind_some, List.foldlM_cons, if_pos rfl]
  have rest := idle after (List.nodup_cons.mp apart.2.1).1
  cases change s with
  | none => rfl
  | some changed => exact rest changed

end Chains

section Lockstep

variable {σ τ α : Type} {R : σ → τ → Prop}

/-- Two computations run in lockstep: both fail, or both return and their results are related. -/
abbrev Lockstep (R : σ → τ → Prop) (first : Option σ) (second : Option τ) : Prop :=
  Option.Rel R first second

theorem Lockstep.isSome_eq {first : Option σ} {second : Option τ}
    (both : Lockstep R first second) : second.isSome = first.isSome := by
  cases both <;> rfl

theorem Lockstep.bind {σ' τ' : Type} {S : σ' → τ' → Prop} {first : Option σ} {second : Option τ}
    {next : σ → Option σ'} {next' : τ → Option τ'} (start : Lockstep R first second)
    (rest : ∀ s t, R s t → Lockstep S (next s) (next' t)) :
    Lockstep S (first >>= next) (second >>= next') := by
  cases start with
  | none => exact .none
  | some related => exact rest _ _ related

/-- Sequencing, where the rest may use what the first computations returned. -/
theorem Lockstep.bind_of {σ' τ' : Type} {S : σ' → τ' → Prop} {first : Option σ} {second : Option τ}
    {next : σ → Option σ'} {next' : τ → Option τ'} (start : Lockstep R first second)
    (rest : ∀ s t, first = some s → second = some t → R s t → Lockstep S (next s) (next' t)) :
    Lockstep S (first >>= next) (second >>= next') := by
  cases start with
  | none => exact .none
  | some related => exact rest _ _ rfl rfl related

/-- Both continue from the same result. -/
theorem Lockstep.shared {σ' τ' : Type} {S : σ' → τ' → Prop} {first : Option σ}
    {next : σ → Option σ'} {next' : σ → Option τ'} (rest : ∀ s, Lockstep S (next s) (next' s)) :
    Lockstep S (first >>= next) (first >>= next') := by
  cases first with
  | none => exact .none
  | some s => exact rest s

/-- Two computations that branch alike. -/
theorem Lockstep.ite_iff {condition condition' : Prop} [Decidable condition] [Decidable condition']
    {first other : Option σ} {second other' : Option τ} (same : condition' ↔ condition)
    (yes : condition → Lockstep R first second) (no : ¬ condition → Lockstep R other other') :
    Lockstep R (if condition then first else other) (if condition' then second else other') := by
  by_cases holds : condition
  · rw [if_pos holds, if_pos (same.mpr holds)]
    exact yes holds
  · rw [if_neg holds, if_neg fun holds' => holds (same.mp holds')]
    exact no holds

/-- Two computations that branch on the same condition. -/
theorem Lockstep.ite {condition : Prop} [Decidable condition] {first other : Option σ}
    {second other' : Option τ} (yes : condition → Lockstep R first second)
    (no : ¬ condition → Lockstep R other other') :
    Lockstep R (if condition then first else other) (if condition then second else other') :=
  Lockstep.ite_iff Iff.rfl yes no

/-- Two loops over the same items. -/
theorem Lockstep.foldlM {body : σ → α → Option σ} {body' : τ → α → Option τ}
    (each : ∀ s t item, R s t → Lockstep R (body s item) (body' t item)) (items : List α) :
    ∀ s t, R s t → Lockstep R (items.foldlM body s) (items.foldlM body' t) := by
  induction items with
  | nil => exact fun s t related => .some related
  | cons item items ih =>
    intro s t related
    rw [List.foldlM_cons, List.foldlM_cons]
    exact (each s t item related).bind ih

end Lockstep

end Trace
