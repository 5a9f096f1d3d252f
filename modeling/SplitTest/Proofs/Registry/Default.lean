import Mathlib.Data.Nat.Notation
import SplitTest.Registries

/-! The default registry over runs of calls. Asking for it comes to the registry that was installed
last; if that was none, to the one that was built since, and only without one is another built. -/
namespace SplitTest

namespace RegistryCall

/-- What a call makes the default registry, if it does so. -/
def installed? : RegistryCall → Option (Option ℕ)
  | .install number => some number
  | _ => none

/-- What a call hands on to the default registry, if it does so. -/
def passed? : RegistryCall → Option Call
  | .variant name args => some (.variant name args)
  | .expose name event context => some (.expose name event context)
  | _ => none

/-- Whether a call asks for the default registry. -/
def asks : RegistryCall → Bool
  | .get => true
  | c => c.passed?.isSome

end RegistryCall

namespace Registries

variable {p : Registries} {s : Surroundings} {c : RegistryCall} {r : MadeRegistry} {n : ℕ}
  {calls : List (RegistryCall × Surroundings)}

/-- Every registry that is installed in calls was made before. -/
def Sound (p : Registries) : List (RegistryCall × Surroundings) → Prop
  | [] => True
  | (c, s) :: rest =>
    (∀ n, c.installed? = some (some n) → n < p.made.length) ∧ (p.step s c).registries.Sound rest

/-- The registry that is made in a call that asks for the default one, if one is. -/
def builtBy (p : Registries) (s : Surroundings) (c : RegistryCall) : Option ℕ :=
  if c.asks ∧ p.made.length < (p.step s c).registries.made.length then some p.made.length else none

/-- What calls so far made of the default registry. -/
structure Past where
  /-- The registry that was installed last, if it was not none. -/
  installed : Option ℕ
  /-- The registries that were built since. -/
  built : List ℕ
deriving DecidableEq, Repr

/-- The past after one more call. -/
def Past.next (past : Past) (p : Registries) (s : Surroundings) (c : RegistryCall) : Past :=
  match c.installed? with
  | some r => ⟨r, []⟩
  | none => { past with built := past.built ++ (p.builtBy s c).toList }

/-- The past after calls. -/
def past (p : Registries) (before : Past) : List (RegistryCall × Surroundings) → Past
  | [] => before
  | (c, s) :: rest => (p.step s c).registries.past (before.next p s c) rest

/-- What asking for the default registry comes to: the one that was installed last; if that was
none, the one that was built since; and if none was, the one that is built now, or why it cannot
be. -/
inductive Asked (p : Registries) (s : Surroundings) : Past → Answer (Except BuildError ℕ) → Prop
  | installed (n : ℕ) : Asked p s ⟨some n, []⟩ ⟨.ok n, p, []⟩
  | kept (n : ℕ) : Asked p s ⟨none, [n]⟩ ⟨.ok n, p, []⟩
  | built {r : MadeRegistry} (h : (p.build s).outcome = .ok r) :
      Asked p s ⟨none, []⟩ ⟨.ok p.made.length,
        ⟨p.made ++ [r], ⟨some p.made.length⟩, (p.load s).toOption⟩, (p.build s).notices⟩
  | failed {e : BuildError} (h : (p.build s).outcome = .error e) :
      Asked p s ⟨none, []⟩
        ⟨.error e, { p with settings := (p.load s).toOption }, (p.build s).notices⟩

/-- What a call comes to that is handed on to the default registry, once that was asked for. -/
inductive PassedOn (asked : Answer (Except BuildError ℕ)) (c : Call) : Answer RegistryReply → Prop
  | failed {e : BuildError} (h : asked.value = .error e) :
      PassedOn asked c ⟨.answer (.error e), asked.registries, asked.notices⟩
  | answered {n : ℕ} {r : MadeRegistry} (h : asked.value = .ok n)
      (hr : asked.registries.made[n]? = some r) :
      PassedOn asked c ⟨.answer (.ok (some (r.step c).1)),
        { asked.registries with made := asked.registries.made.set n (r.step c).2.1 },
        asked.notices ++ (r.step c).2.2⟩

/-- The default registry after a past: what every later call finds. -/
structure Serves (p : Registries) (past : Past) : Prop where
  /-- Since something was last installed at most one registry was built. -/
  once : past.built.length ≤ 1
  asked (s : Surroundings) : Asked p s past (p.ask s)
  got (s : Surroundings) : p.step s .get = (p.ask s).map .number
  passedOn {c : RegistryCall} {d : Call} (s : Surroundings) (h : c.passed? = some d) :
    PassedOn (p.ask s) d (p.step s c)
  /-- After a build that failed there is no default registry still, and asking builds again. -/
  again {s : Surroundings} {e : BuildError} (h : (p.ask s).value = .error e) (s' : Surroundings) :
    Asked (p.ask s).registries s' ⟨none, []⟩ ((p.ask s).registries.ask s')
  /-- A registry that is replaced is not the default one again before it is installed. -/
  replaced {n : ℕ} {r : Option ℕ} {later : List (RegistryCall × Surroundings)}
    (h : p.default.current = some n) (hr : r ≠ some n)
    (hlater : ∀ c ∈ later, c.1.installed? ≠ some (some n)) (s s' : Surroundings) :
    ((p.after ((.install r, s) :: later)).ask s').value ≠ .ok n

section Steps

theorem ask_of_current (h : p.default.current = some n) : p.ask s = ⟨.ok n, p, []⟩ := by
  unfold ask DefaultRegistry.get
  simp only [h]

theorem ask_of_built (hnone : p.default.current = none) (h : (p.build s).outcome = .ok r) :
    p.ask s = ⟨.ok p.made.length,
      ⟨p.made ++ [r], ⟨some p.made.length⟩, (p.load s).toOption⟩, (p.build s).notices⟩ := by
  unfold ask DefaultRegistry.get
  simp only [hnone, h]
  rfl

theorem ask_of_failed {e : BuildError} (hnone : p.default.current = none)
    (h : (p.build s).outcome = .error e) :
    p.ask s = ⟨.error e, { p with settings := (p.load s).toOption }, (p.build s).notices⟩ := by
  unfold ask DefaultRegistry.get
  simp only [hnone, h]
  simp [Except.map, Except.toOption]

/-- Asking comes to the registry that there is, to one that is built, or to why none is. -/
theorem ask_cases (p : Registries) (s : Surroundings) :
    (∃ n, p.default.current = some n ∧ p.ask s = ⟨.ok n, p, []⟩) ∨
    (p.default.current = none ∧ ∃ r, (p.build s).outcome = .ok r ∧
      p.ask s = ⟨.ok p.made.length,
        ⟨p.made ++ [r], ⟨some p.made.length⟩, (p.load s).toOption⟩, (p.build s).notices⟩) ∨
    (p.default.current = none ∧ ∃ e, (p.build s).outcome = .error e ∧
      p.ask s = ⟨.error e, { p with settings := (p.load s).toOption }, (p.build s).notices⟩) := by
  cases hcurrent : p.default.current with
  | some n => exact .inl ⟨n, rfl, ask_of_current hcurrent⟩
  | none =>
    cases houtcome : (p.build s).outcome with
    | ok r => exact .inr (.inl ⟨rfl, r, rfl, ask_of_built hcurrent houtcome⟩)
    | error e => exact .inr (.inr ⟨rfl, e, rfl, ask_of_failed hcurrent houtcome⟩)

theorem length_le_ask (p : Registries) (s : Surroundings) :
    p.made.length ≤ (p.ask s).registries.made.length := by
  obtain ⟨n, -, h⟩ | ⟨-, r, -, h⟩ | ⟨-, e, -, h⟩ := p.ask_cases s <;> simp [h]

/-- What asking comes to was made, if the default registry was. -/
theorem lt_length_ask (hp : ∀ m, p.default.current = some m → m < p.made.length)
    (h : (p.ask s).value = .ok n) : n < (p.ask s).registries.made.length := by
  obtain ⟨m, hm, hask⟩ | ⟨-, r, -, hask⟩ | ⟨-, e, -, hask⟩ := p.ask_cases s
  · rw [hask] at h ⊢
    exact Except.ok.inj h ▸ hp m hm
  · rw [hask] at h ⊢
    simp [← Except.ok.inj h]
  · rw [hask] at h
    cases h

/-- A registry that there was before is what asking comes to only if it is the default one. -/
theorem ask_ne (hn : n < p.made.length) (h : p.default.current ≠ some n) :
    (p.ask s).value ≠ .ok n := by
  obtain ⟨m, hm, hask⟩ | ⟨-, r, -, hask⟩ | ⟨-, e, -, hask⟩ := p.ask_cases s
  · rw [hask]
    rintro ⟨⟩
    exact h hm
  · rw [hask]
    rintro ⟨⟩
    exact Nat.lt_irrefl _ hn
  · rw [hask]
    nofun

variable {α : Type} (f : MadeRegistry → α × MadeRegistry × List Notice)

@[simp]
theorem act_default : (p.act n f).registries.default = p.default := by
  unfold act
  cases p.made[n]? <;> rfl

@[simp]
theorem length_act : (p.act n f).registries.made.length = p.made.length := by
  unfold act
  cases p.made[n]? <;> simp

theorem useDefault_of_failed {e : BuildError} (h : (p.ask s).value = .error e) (d : Call) :
    p.useDefault s d = ⟨.error e, (p.ask s).registries, (p.ask s).notices⟩ := by
  simp only [useDefault, h]

theorem useDefault_of_asked (h : (p.ask s).value = .ok n) (d : Call) :
    p.useDefault s d =
      { (p.ask s).registries.act n (·.step d) with
        value := .ok ((p.ask s).registries.act n (·.step d)).value
        notices := (p.ask s).notices ++ ((p.ask s).registries.act n (·.step d)).notices } := by
  simp only [useDefault, h]

/-- A call to the default registry leaves what asking for it leaves, but for that one itself. -/
@[simp]
theorem useDefault_default (d : Call) :
    (p.useDefault s d).registries.default = (p.ask s).registries.default := by
  cases h : (p.ask s).value with
  | error e => rw [useDefault_of_failed h]
  | ok n => rw [useDefault_of_asked h]; exact act_default _

@[simp]
theorem length_useDefault (d : Call) :
    (p.useDefault s d).registries.made.length = (p.ask s).registries.made.length := by
  cases h : (p.ask s).value with
  | error e => rw [useDefault_of_failed h]
  | ok n => rw [useDefault_of_asked h]; exact length_act _

theorem length_le_step (p : Registries) (s : Surroundings) (c : RegistryCall) :
    p.made.length ≤ (p.step s c).registries.made.length := by
  cases c with
  | make _ => simp [step]
  | use _ _ => simp [step, Answer.map]
  | poll _ _ => simp [step, Answer.map]
  | close _ => simp [step, Answer.map]
  | install _ => exact Nat.le_refl _
  | get => exact p.length_le_ask s
  | variant _ _ => simpa [step, Answer.map] using p.length_le_ask s
  | expose _ _ _ => simpa [step, Answer.map] using p.length_le_ask s

/-- What a call does that asks for the default registry: it keeps the one there is, if there is one,
or else builds one, if it can. -/
theorem builtBy_cases (hasks : c.asks = true)
    (hdefault : (p.step s c).registries.default = (p.ask s).registries.default)
    (hlength : (p.step s c).registries.made.length = (p.ask s).registries.made.length) :
    (p.builtBy s c = none ∧
      (p.step s c).registries.default.current = p.default.current) ∨
    (p.default.current = none ∧ p.builtBy s c = some p.made.length ∧
      (p.step s c).registries.default.current = some p.made.length) := by
  obtain ⟨n, hn, hask⟩ | ⟨hnone, r, -, hask⟩ | ⟨hnone, e, -, hask⟩ := p.ask_cases s
  · exact .inl ⟨by simp [builtBy, hlength, hask], by rw [hdefault, hask]⟩
  · exact .inr ⟨hnone, by simp [builtBy, hasks, hlength, hask], by rw [hdefault, hask]⟩
  · exact .inl ⟨by simp [builtBy, hlength, hask], by rw [hdefault, hask]⟩

/-- What a step does to the default registry: it installs one or none, keeps what there was, or
builds one where there was none. -/
theorem step_cases (p : Registries) (s : Surroundings) (c : RegistryCall) :
    (∃ r, c.installed? = some r ∧ (p.step s c).registries.default.current = r) ∨
    (c.installed? = none ∧
      ((p.builtBy s c = none ∧
        (p.step s c).registries.default.current = p.default.current) ∨
      (p.default.current = none ∧ p.builtBy s c = some p.made.length ∧
        (p.step s c).registries.default.current = some p.made.length))) := by
  cases c with
  | install r => exact .inl ⟨r, rfl, rfl⟩
  | get => exact .inr ⟨rfl, builtBy_cases rfl rfl rfl⟩
  | variant _ _ =>
    exact .inr ⟨rfl, builtBy_cases rfl (useDefault_default _) (length_useDefault _)⟩
  | expose _ _ _ =>
    exact .inr ⟨rfl, builtBy_cases rfl (useDefault_default _) (length_useDefault _)⟩
  | make _ => exact .inr ⟨rfl, .inl ⟨rfl, rfl⟩⟩
  | use _ _ => exact .inr ⟨rfl, .inl ⟨rfl, congrArg _ (act_default _)⟩⟩
  | poll _ _ => exact .inr ⟨rfl, .inl ⟨rfl, congrArg _ (act_default _)⟩⟩
  | close _ => exact .inr ⟨rfl, .inl ⟨rfl, congrArg _ (act_default _)⟩⟩

theorem lt_length_of_builtBy (h : p.builtBy s c = some n) :
    n < (p.step s c).registries.made.length := by
  simp only [builtBy, Option.ite_none_right_eq_some, Option.some.injEq] at h
  exact h.2 ▸ h.1.2

/-- A registry that is not the default one becomes it only when it is installed. -/
theorem step_current_ne (hn : n < p.made.length) (h : p.default.current ≠ some n)
    (hc : c.installed? ≠ some (some n)) (s : Surroundings) :
    (p.step s c).registries.default.current ≠ some n := by
  obtain ⟨r, hr, hcurrent⟩ | ⟨-, ⟨-, hcurrent⟩ | ⟨-, -, hcurrent⟩⟩ := p.step_cases s c
  · rw [hcurrent]
    rintro rfl
    exact hc hr
  · rw [hcurrent]
    exact h
  · rw [hcurrent]
    rintro ⟨⟩
    exact Nat.lt_irrefl _ hn

end Steps

section Runs

/-- What the default registry is after a past; it is one of those that were made, so that no other
one gets its number. -/
inductive Holds (p : Registries) : Past → Prop
  | installed {n : ℕ} (h : p.default.current = some n) (hn : n < p.made.length) :
      Holds p ⟨some n, []⟩
  | built {n : ℕ} (h : p.default.current = some n) (hn : n < p.made.length) :
      Holds p ⟨none, [n]⟩
  | empty (h : p.default.current = none) : Holds p ⟨none, []⟩

theorem Holds.step {past : Past} (h : p.Holds past)
    (hc : ∀ n, c.installed? = some (some n) → n < p.made.length) (s : Surroundings) :
    (p.step s c).registries.Holds (past.next p s c) := by
  have hlength := p.length_le_step s c
  obtain ⟨r, hr, hcurrent⟩ | ⟨hr, ⟨hbuilt, hcurrent⟩ | ⟨hnone, hbuilt, hcurrent⟩⟩ :=
    p.step_cases s c
  · simp only [Past.next, hr]
    cases r with
    | none => exact .empty hcurrent
    | some n => exact .installed hcurrent (Nat.lt_of_lt_of_le (hc n hr) hlength)
  · simp only [Past.next, hr, hbuilt, Option.toList_none, List.append_nil]
    cases h with
    | installed h hn => exact .installed (hcurrent.trans h) (Nat.lt_of_lt_of_le hn hlength)
    | built h hn => exact .built (hcurrent.trans h) (Nat.lt_of_lt_of_le hn hlength)
    | empty h => exact .empty (hcurrent.trans h)
  · simp only [Past.next, hr, hbuilt, Option.toList_some]
    cases h with
    | installed h _ => simp [h] at hnone
    | built h _ => simp [h] at hnone
    | empty _ => exact .built hcurrent (lt_length_of_builtBy hbuilt)

theorem Holds.after {past : Past} (h : p.Holds past) (hsound : p.Sound calls) :
    (p.after calls).Holds (p.past past calls) := by
  induction calls generalizing p past with
  | nil => exact h
  | cons call rest ih => exact ih (h.step hsound.1 call.2) hsound.2

/-- A registry that is not the default one stays so over calls that do not install it. -/
theorem after_current_ne (hn : n < p.made.length) (h : p.default.current ≠ some n)
    (hcalls : ∀ call ∈ calls, call.1.installed? ≠ some (some n)) :
    n < (p.after calls).made.length ∧ (p.after calls).default.current ≠ some n := by
  induction calls generalizing p with
  | nil => exact ⟨hn, h⟩
  | cons call rest ih =>
    obtain ⟨hcall, hrest⟩ := List.forall_mem_cons.mp hcalls
    exact ih (Nat.lt_of_lt_of_le hn (p.length_le_step call.2 call.1))
      (step_current_ne hn h hcall call.2) hrest

theorem Holds.lt_length {past : Past} (h : p.Holds past) (hn : p.default.current = some n) :
    n < p.made.length := by
  cases h with
  | installed h hlt => exact Option.some.inj (h.symm.trans hn) ▸ hlt
  | built h hlt => exact Option.some.inj (h.symm.trans hn) ▸ hlt
  | empty h => simp [h] at hn

theorem Holds.asked {past : Past} (h : p.Holds past) (s : Surroundings) :
    Asked p s past (p.ask s) := by
  cases h with
  | installed h _ => rw [ask_of_current h]; exact .installed _
  | built h _ => rw [ask_of_current h]; exact .kept _
  | empty h =>
    cases houtcome : (p.build s).outcome with
    | ok r => rw [ask_of_built h houtcome]; exact .built houtcome
    | error e => rw [ask_of_failed h houtcome]; exact .failed houtcome

theorem useDefault_passedOn (hp : ∀ m, p.default.current = some m → m < p.made.length)
    (s : Surroundings) (d : Call) :
    PassedOn (p.ask s) d ((p.useDefault s d).map .answer) := by
  cases h : (p.ask s).value with
  | error e => rw [useDefault_of_failed h]; exact .failed h
  | ok n =>
    have hr := List.getElem?_eq_getElem (lt_length_ask hp h)
    rw [useDefault_of_asked h, act, hr]
    exact .answered h hr

theorem Holds.passedOn {past : Past} (h : p.Holds past) {d : Call} (hc : c.passed? = some d)
    (s : Surroundings) : PassedOn (p.ask s) d (p.step s c) := by
  cases c with
  | variant _ _ => cases hc; exact useDefault_passedOn (fun _ => h.lt_length) s _
  | expose _ _ _ => cases hc; exact useDefault_passedOn (fun _ => h.lt_length) s _
  | _ => cases hc

/-- A build that failed leaves no default registry. -/
theorem holds_of_failed {e : BuildError} (h : (p.ask s).value = .error e) :
    (p.ask s).registries.Holds ⟨none, []⟩ := by
  obtain ⟨n, -, hask⟩ | ⟨-, r, -, hask⟩ | ⟨hnone, e, -, hask⟩ := p.ask_cases s
  · simp [hask] at h
  · simp [hask] at h
  · rw [hask]
    exact .empty hnone

theorem Holds.replaced {past : Past} {r : Option ℕ} (h : p.Holds past)
    (hn : p.default.current = some n) (hr : r ≠ some n)
    (hcalls : ∀ call ∈ calls, call.1.installed? ≠ some (some n)) (s s' : Surroundings) :
    ((p.after ((.install r, s) :: calls)).ask s').value ≠ .ok n := by
  have hafter := after_current_ne (p := (p.step s (.install r)).registries) (h.lt_length hn) hr
    hcalls
  exact ask_ne hafter.1 hafter.2

theorem Holds.serves {past : Past} (h : p.Holds past) : p.Serves past where
  once := by cases h <;> simp
  asked := h.asked
  got _ := rfl
  passedOn s hc := h.passedOn hc s
  again he s' := (holds_of_failed he).asked s'
  replaced hn hr hlater s s' := h.replaced hn hr hlater s s'

/-- After every run of calls the default registry is the one that was installed last; if that was
none, the one that was built since. -/
theorem serves_after (h : start.Sound calls) :
    (start.after calls).Serves (start.past ⟨none, []⟩ calls) :=
  ((Holds.empty rfl).after h).serves

/-- Settings that name a manifest, which is not waited for. -/
def besideOffers (files : FileTree) : Surroundings where
  environment := [("FLIT_EXPERIMENTS_MANIFEST_PATH", "o"), ("FLIT_EXPERIMENTS_LOAD_TIMEOUT", "0")]
  variableFile := none
  files _ := files
  scale := .double
  steps := 1
  begin := TimeScale.double.start
  now := .ofInt 5

/-- One registry is installed and taken away again, the next cannot be built at first. -/
def reinstallment : List (RegistryCall × Surroundings) :=
  let missing := besideOffers .empty
  let found := besideOffers ⟨[(["o"], .file [0x7b, 0x7d] 1)], []⟩
  [(.variant "offer" [], missing), (.make (.start [] (.ofInt 5) .missing), missing),
    (.install (some 0), missing), (.get, found), (.install none, found), (.get, missing),
    (.get, found), (.variant "offer" [], missing)]

theorem serves_after_reinstallment :
    start.Sound reinstallment ∧ start.past ⟨none, []⟩ reinstallment = ⟨none, [1]⟩ ∧
      (start.after reinstallment).Serves ⟨none, [1]⟩ := by
  have hsound : start.Sound reinstallment := by
    refine ⟨nofun, nofun, ?_, nofun, nofun, nofun, nofun, nofun, trivial⟩
    rintro _ ⟨⟩
    decide +kernel
  have hpast : start.past ⟨none, []⟩ reinstallment = ⟨none, [1]⟩ := by decide +kernel
  exact ⟨hsound, hpast, hpast ▸ serves_after hsound⟩

end Runs

end Registries
end SplitTest
