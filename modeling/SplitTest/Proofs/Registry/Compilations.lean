import SplitTest.Proofs.Registry.Reads

/-! Compilations over runs of calls. A registry looks experiments up by name, and what it tells of a
look-up is what it adds to the names that are compiled from the same document; so between two
changes of the document no name is compiled twice, and a look-up that fails adds nothing. -/
namespace SplitTest

/-- The name that a notice tells the compilation of. -/
def Notice.compiled? : Notice → Option String
  | .compiled name _ => some name
  | _ => none

/-- The names that notices tell the compilation of. -/
def compiledIn (notices : List Notice) : List String :=
  notices.filterMap Notice.compiled?

theorem compiledIn_append (notices more : List Notice) :
    compiledIn (notices ++ more) = compiledIn notices ++ compiledIn more :=
  List.filterMap_append

/-- A look-up in a document that was read: what was compiled from it before and after, and whether
the name compiles. -/
structure Look where
  name : String
  document : ℕ
  before : List String
  outcome : Except RegistryError Unit
  /-- The names that the look-up tells the compilation of. -/
  told : List String
  after : List String

namespace Registry

variable {contents : ℕ → Manifest} {r r' : Registry} {s : Snapshot} {name : String}

/-- The names that are compiled already from the document of a number. -/
def compiledFrom (r : Registry) (n : ℕ) : List String :=
  if r.snapshot = some n then r.compiled.map (·.1) else []

def look (r : Registry) (s : Snapshot) (name : String) : Look where
  name := name
  document := s.number
  before := r.compiledFrom s.number
  outcome := (r.lookup s name).value.map fun _ => ()
  told := compiledIn (r.lookup s name).notices
  after := (r.lookup s name).registry.compiledFrom s.number

/-- The look-ups of a check of all names, up to the first error that is no fault. -/
def looksAmong (r : Registry) : List (String × Snapshot) → List Look
  | [] => []
  | (name, s) :: rest =>
    r.look s name :: match (r.lookup s name).value with
      | .ok _ => (r.lookup s name).registry.looksAmong rest
      | .error e => if e.isFault then (r.lookup s name).registry.looksAmong rest else []

/-- What a look-up may come to. -/
inductive Looked (r : Registry) (s : Snapshot) (name : String) : Answer Experiment → Prop
  | kept {x : Experiment} (h : Assoc.find? name (r.refresh s).compiled = some x) :
      Looked r s name ⟨.ok x, r.refresh s, []⟩
  | compiled {x : Experiment} (h : Assoc.find? name (r.refresh s).compiled = none)
      (hx : s.manifest.experiment name = .ok x) :
      Looked r s name ⟨.ok x,
        { r.refresh s with compiled := Assoc.insert name x (r.refresh s).compiled },
        [.compiled name x.summary]⟩
  | failed {e : RegistryError} (h : Assoc.find? name (r.refresh s).compiled = none)
      (he : s.manifest.experiment name = .error e) :
      Looked r s name ⟨.error e, r.refresh s, []⟩

theorem lookup_looked (r : Registry) (s : Snapshot) (name : String) :
    Looked r s name (r.lookup s name) := by
  unfold lookup
  dsimp only
  cases hf : Assoc.find? name (r.refresh s).compiled with
  | some x => exact .kept hf
  | none =>
    cases hx : s.manifest.experiment name with
    | ok x => exact .compiled hf hx
    | error e => exact .failed hf hx

theorem compiledFrom_refresh : (r.refresh s).compiledFrom s.number = r.compiledFrom s.number := by
  unfold compiledFrom refresh
  split_ifs <;> rfl

theorem not_mem_of_find?_eq_none (h : Assoc.find? name r.compiled = none) :
    name ∉ r.compiled.map (·.1) := by
  rw [← Assoc.find?_isSome_iff, h]
  simp

theorem keys_insert (h : Assoc.find? name r.compiled = none) (x : Experiment) :
    (Assoc.insert name x r.compiled).map (·.1) = r.compiled.map (·.1) ++ [name] := by
  rw [Assoc.insert_of_not_mem (not_mem_of_find?_eq_none h), List.map_append]
  rfl

theorem compiledFrom_insert {n : ℕ} (hn : r.snapshot = some n)
    (h : Assoc.find? name r.compiled = none) (x : Experiment) :
    compiledFrom { r with compiled := Assoc.insert name x r.compiled } n =
      r.compiledFrom n ++ [name] := by
  rw [compiledFrom, compiledFrom, if_pos hn, if_pos hn, keys_insert h]

/-- The names that are compiled after a look-up are those before it and the one it tells of, if it
does; one that fails tells of none. -/
theorem look_spec (r : Registry) (s : Snapshot) (name : String) :
    (r.look s name).after = (r.look s name).before ++ (r.look s name).told ∧
      (∀ e, (r.look s name).outcome = .error e → (r.look s name).told = []) := by
  have hbefore : (r.look s name).before = (r.refresh s).compiledFrom s.number :=
    compiledFrom_refresh.symm
  unfold look at hbefore ⊢
  dsimp only at hbefore ⊢
  rw [hbefore]
  have hlooked := lookup_looked r s name
  generalize r.lookup s name = found at hlooked ⊢
  cases hlooked with
  | kept h => exact ⟨(List.append_nil _).symm, nofun⟩
  | failed h he => exact ⟨(List.append_nil _).symm, fun _ _ => rfl⟩
  | compiled h hx => exact ⟨compiledFrom_insert refresh_snapshot h _, nofun⟩

/-- No name is compiled twice. -/
def Distinct (r : Registry) : Prop :=
  (r.compiled.map (·.1)).Nodup

theorem empty_distinct : empty.Distinct :=
  List.nodup_nil

theorem Distinct.refresh (h : r.Distinct) : (r.refresh s).Distinct := by
  unfold Registry.refresh
  split_ifs
  · exact h
  · exact List.nodup_nil

theorem Distinct.lookup (h : r.Distinct) : (r.lookup s name).registry.Distinct := by
  have hr : (r.refresh s).Distinct := h.refresh
  have hlooked := lookup_looked r s name
  generalize r.lookup s name = found at hlooked ⊢
  cases hlooked with
  | kept | failed => exact hr
  | compiled hnone hx =>
    unfold Distinct
    dsimp only
    rw [keys_insert hnone]
    refine List.nodup_append.mpr ⟨hr, List.nodup_singleton _, fun a ha b hb => ?_⟩
    obtain rfl := List.mem_singleton.mp hb
    exact fun heq => not_mem_of_find?_eq_none hnone (heq ▸ ha)

theorem Distinct.compiledFrom (h : r.Distinct) (n : ℕ) : (r.compiledFrom n).Nodup := by
  unfold Registry.compiledFrom
  split_ifs
  · exact h
  · exact List.nodup_nil

/-- Look-ups that are made one after the other, each in a document with the content of its
number. -/
inductive Linked (contents : ℕ → Manifest) : Registry → List Look → Registry → Prop
  | nil (r : Registry) : Linked contents r [] r
  | cons {r r' : Registry} {s : Snapshot} {name : String} {looks : List Look}
      (hs : s.manifest = contents s.number)
      (h : Linked contents (r.lookup s name).registry looks r') :
      Linked contents r (r.look s name :: looks) r'

theorem Linked.append {m : Registry} {looks more : List Look} (h : Linked contents r looks m)
    (hmore : Linked contents m more r') : Linked contents r (looks ++ more) r' := by
  induction h with
  | nil => exact hmore
  | cons hs _ ih => exact .cons hs (ih hmore)

theorem Linked.exists_of_append {looks more : List Look}
    (h : Linked contents r (looks ++ more) r') :
    ∃ m, Linked contents r looks m ∧ Linked contents m more r' := by
  induction looks generalizing r with
  | nil => exact ⟨r, .nil r, h⟩
  | cons l rest ih =>
    cases h with
    | cons hs h =>
      obtain ⟨m, hfront, hback⟩ := ih h
      exact ⟨m, .cons hs hfront, hback⟩

theorem Linked.distinct {looks : List Look} (h : Linked contents r looks r') (hr : r.Distinct) :
    r'.Distinct := by
  induction h with
  | nil => exact hr
  | cons _ _ ih => exact ih hr.lookup

/-- As long as one document is read, what is told is what is compiled more from it. -/
theorem Linked.compiledFrom {looks : List Look} {n : ℕ} (h : Linked contents r looks r')
    (hn : ∀ l ∈ looks, l.document = n) :
    r'.compiledFrom n = r.compiledFrom n ++ looks.flatMap (·.told) := by
  induction h with
  | nil => simp
  | @cons r r' s name looks hs _ ih =>
    rw [List.forall_mem_cons] at hn
    obtain ⟨hdocument, hn⟩ := hn
    obtain rfl : s.number = n := hdocument
    have hafter : (r.lookup s name).registry.compiledFrom s.number =
        r.compiledFrom s.number ++ (r.look s name).told := (look_spec r s name).1
    rw [ih hn, hafter, List.append_assoc, List.flatMap_cons]

/-- Each look-up has the outcome that compiling afresh has. -/
theorem Linked.outcome {looks : List Look} (h : Linked contents r looks r')
    (hr : r.Coherent contents) :
    ∀ l ∈ looks, l.outcome = (contents l.document).check l.name := by
  induction h with
  | nil => simp
  | @cons r r' s name looks hs _ ih =>
    obtain ⟨hvalue, hnext⟩ := lookup_spec hr hs name
    refine List.forall_mem_cons.mpr ⟨?_, ih hnext⟩
    change (r.lookup s name).value.map (fun _ => ()) = (contents s.number).check name
    rw [hvalue, hs]
    rfl

theorem Linked.look_spec {looks : List Look} (h : Linked contents r looks r') :
    ∀ l ∈ looks, l.after = l.before ++ l.told ∧ ∀ e, l.outcome = .error e → l.told = [] := by
  induction h with
  | nil => simp
  | @cons r r' s name looks hs _ ih =>
    exact List.forall_mem_cons.mpr ⟨Registry.look_spec r s name, ih⟩

theorem linked_single (hs : s.manifest = contents s.number) :
    Linked contents r [r.look s name] (r.lookup s name).registry :=
  .cons hs (.nil _)

theorem faultsAmong_linked {entries : List (String × Snapshot)}
    (hs : ∀ entry ∈ entries, entry.2.manifest = contents entry.2.number) :
    Linked contents r (r.looksAmong entries) (r.faultsAmong entries).registry ∧
      compiledIn (r.faultsAmong entries).notices = (r.looksAmong entries).flatMap (·.told) := by
  induction entries generalizing r with
  | nil => exact ⟨.nil r, rfl⟩
  | cons entry rest ih =>
    obtain ⟨name, s⟩ := entry
    rw [List.forall_mem_cons] at hs
    obtain ⟨hlinked, htold⟩ := ih (r := (r.lookup s name).registry) hs.2
    unfold looksAmong faultsAmong
    dsimp only
    cases (r.lookup s name).value with
    | ok x => exact ⟨.cons hs.1 hlinked, by rw [compiledIn_append, htold]; rfl⟩
    | error e =>
      dsimp only
      split_ifs
      · exact ⟨.cons hs.1 hlinked, by rw [compiledIn_append, htold]; rfl⟩
      · exact ⟨linked_single hs.1, (List.append_nil _).symm⟩

end Registry

/-- A reply that tells of what does not compile. -/
inductive Reply.Uncompiled : Reply → Prop
  | checked (e : RegistryError) : Uncompiled (.checked (.error e))
  | variant {e : RegistryError} (h : ∀ q, e ≠ .request q) : Uncompiled (.variant (.error e))
  | faults {outcome : Except RegistryError (List (String × RegistryError))}
      (h : outcome ≠ .ok []) : Uncompiled (.faults outcome)

namespace Session

variable {contents : ℕ → Manifest} {s t : Session} {reads reads' : ℕ → Snapshot}

/-- The look-ups of a call. -/
def looks (s : Session) (reads : ℕ → Snapshot) : Call → List Look
  | .variant name _ => [s.registry.look (reads 0) name]
  | .check name => [s.registry.look (reads 0) name]
  | .faults => s.registry.looksAmong
      ((reads 0).manifest.names.mapIdx fun i name => (name, reads (i + 1)))
  | _ => []

/-- The look-ups of calls, each with what the source gives while it is answered. -/
def looksReading (s : Session) : List (Call × (ℕ → Snapshot)) → List Look
  | [] => []
  | (c, reads) :: rest => s.looks reads c ++ (s.stepReading reads c).2.1.looksReading rest

/-- What there is to tell of such calls. -/
def noticesReading (s : Session) : List (Call × (ℕ → Snapshot)) → List Notice
  | [] => []
  | (c, reads) :: rest =>
    (s.stepReading reads c).2.2 ++ (s.stepReading reads c).2.1.noticesReading rest

theorem compiledIn_assignmentNotices (x : Experiment) (outcome : Except RequestError Assignment) :
    compiledIn (Registry.assignmentNotices x outcome) = [] := by
  unfold Registry.assignmentNotices
  split <;> rfl

/-- What a call does to the registry, and what it tells to be compiled, are its look-ups. -/
theorem stepReading_linked (hs : ReadsFrom contents reads) (c : Call) :
    Registry.Linked contents s.registry (s.looks reads c) (s.stepReading reads c).2.1.registry ∧
      compiledIn (s.stepReading reads c).2.2 = (s.looks reads c).flatMap (·.told) := by
  cases c with
  | check name => exact ⟨Registry.linked_single (hs 0), (List.append_nil _).symm⟩
  | variant name args =>
    change Registry.Linked contents s.registry [s.registry.look (reads 0) name]
        (s.registry.variant (reads 0) s.now name args).registry ∧
      compiledIn (s.registry.variant (reads 0) s.now name args).notices =
        compiledIn (s.registry.lookup (reads 0) name).notices ++ []
    have hlinked : Registry.Linked contents s.registry [s.registry.look (reads 0) name]
        (s.registry.lookup (reads 0) name).registry := Registry.linked_single (hs 0)
    unfold Registry.variant
    dsimp only
    cases (s.registry.lookup (reads 0) name).value with
    | error e => exact ⟨hlinked, (List.append_nil _).symm⟩
    | ok x => exact ⟨hlinked, by rw [compiledIn_append, compiledIn_assignmentNotices]⟩
  | faults =>
    refine Registry.faultsAmong_linked fun entry hentry => ?_
    obtain ⟨i, hi, rfl⟩ := List.mem_mapIdx.mp hentry
    exact hs (i + 1)
  | _ => exact ⟨.nil _, rfl⟩

theorem afterReading_linked {calls : List (Call × (ℕ → Snapshot))}
    (hcalls : ∀ call ∈ calls, ReadsFrom contents call.2) :
    Registry.Linked contents s.registry (s.looksReading calls) (s.afterReading calls).registry ∧
      compiledIn (s.noticesReading calls) = (s.looksReading calls).flatMap (·.told) := by
  induction calls generalizing s with
  | nil => exact ⟨.nil _, rfl⟩
  | cons call rest ih =>
    rw [List.forall_mem_cons] at hcalls
    obtain ⟨hstep, htold⟩ := stepReading_linked (s := s) hcalls.1 call.1
    obtain ⟨hrest, hmore⟩ := ih (s := (s.stepReading call.2 call.1).2.1) hcalls.2
    refine ⟨hstep.append hrest, ?_⟩
    rw [noticesReading, looksReading, compiledIn_append, htold, hmore, List.flatMap_append]

/-- A reply that tells of what does not compile depends on the manifest only. -/
theorem replyOn_of_uncompiled {m : Manifest} {c : Call} (h : (s.replyOn m c).Uncompiled) :
    t.replyOn m c = s.replyOn m c := by
  cases c with
  | check | faults => rfl
  | variant name args =>
    change Reply.Uncompiled (.variant (m.variant s.now name args)) at h
    change Reply.variant (m.variant t.now name args) = .variant (m.variant s.now name args)
    unfold Manifest.variant at h ⊢
    cases hx : m.experiment name with
    | error e => rfl
    | ok x =>
      rw [hx, Except.ok_bind] at h
      cases hv : x.variant s.now args with
      | ok v =>
        rw [hv] at h
        cases h
      | error q =>
        rw [hv] at h
        cases h with
        | variant hq => exact absurd rfl (hq q)
  | _ => cases h

/-- The same call over the same documents tells the same of what does not compile. -/
theorem stepReading_again (h : s.registry.Coherent contents) (h' : t.registry.Coherent contents)
    (hs : ReadsFrom contents reads) (hs' : ReadsFrom contents reads')
    (hsame : ∀ n, (reads' n).number = (reads n).number) {c : Call}
    (hc : (s.stepReading reads c).1.Uncompiled) :
    (t.stepReading reads' c).1 = (s.stepReading reads c).1 := by
  have hmanifest : ∀ n, (reads' n).manifest = (reads n).manifest := fun n => by
    rw [hs' n, hs n, hsame n]
  by_cases hfaults : c = .faults
  · subst hfaults
    rw [(stepReading_faults h' hs').1, (stepReading_faults h hs).1]
    simp only [hmanifest]
  · rw [(stepReading_once h hs hfaults).1] at hc ⊢
    rw [(stepReading_once h' hs' hfaults).1, hmanifest 0]
    exact replyOn_of_uncompiled hc

/-- Whatever the calls and whenever the source changes: what is told to be compiled is what look-ups
tell, and of look-ups in a row in the same document no two tell the same name. One that fails tells
nothing and leaves the names that are compiled as they are, and it fails the same way in that
document ever again, as the call does. -/
theorem compiled_once (manifest : Manifest) (now : Double) (log : ExposureLog)
    {calls : List (Call × (ℕ → Snapshot))} (hcalls : ∀ call ∈ calls, ReadsFrom contents call.2) :
    let s := start manifest now log
    let looks := s.looksReading calls
    compiledIn (s.noticesReading calls) = looks.flatMap (·.told) ∧
      (∀ stretch n, stretch <:+: looks → (∀ l ∈ stretch, l.document = n) →
        (stretch.flatMap (·.told)).Nodup) ∧
      (∀ l ∈ looks, ∀ e, l.outcome = .error e → l.told = [] ∧ l.after = l.before ∧
        ∀ again ∈ looks, again.name = l.name → again.document = l.document →
          again.outcome = .error e) ∧
      ∀ earlier c reads between reads' later,
        calls = earlier ++ (c, reads) :: between ++ (c, reads') :: later →
        (∀ n, (reads' n).number = (reads n).number) →
        ((s.afterReading earlier).stepReading reads c).1.Uncompiled →
        ((s.afterReading (earlier ++ (c, reads) :: between)).stepReading reads' c).1 =
          ((s.afterReading earlier).stepReading reads c).1 := by
  intro s looks
  obtain ⟨hlinked, htold⟩ := afterReading_linked (s := s) hcalls
  have hlooks := hlinked.look_spec
  have houtcome := hlinked.outcome Registry.empty_coherent
  refine ⟨htold, ?_, ?_, ?_⟩
  · rintro stretch n ⟨before, after, hsplit⟩ hn
    have hparts : Registry.Linked contents s.registry (before ++ stretch ++ after)
        (s.afterReading calls).registry := by
      rw [hsplit]
      exact hlinked
    obtain ⟨m, hfront, -⟩ := hparts.exists_of_append
    obtain ⟨r, hbefore, hstretch⟩ := hfront.exists_of_append
    have hdistinct := hstretch.distinct (hbefore.distinct Registry.empty_distinct)
    have hnames := hdistinct.compiledFrom n
    rw [hstretch.compiledFrom hn] at hnames
    exact (List.nodup_append.mp hnames).2.1
  · intro l hl e he
    obtain ⟨hafter, hnone⟩ := hlooks l hl
    refine ⟨hnone e he, by rw [hafter, hnone e he, List.append_nil], ?_⟩
    intro again hagain hname hdocument
    rw [houtcome again hagain, hname, hdocument, ← houtcome l hl, he]
  · intro earlier c reads between reads' later hsplit hsame hc
    have hall : ∀ call ∈ earlier ++ (c, reads) :: between ++ (c, reads') :: later,
      ReadsFrom contents call.2 := hsplit ▸ hcalls
    have hco : (s.afterReading earlier).registry.Coherent contents :=
      afterReading_coherent Registry.empty_coherent fun call hcall => hall call (by simp [hcall])
    have hco' : (s.afterReading (earlier ++ (c, reads) :: between)).registry.Coherent contents :=
      afterReading_coherent Registry.empty_coherent fun call hcall =>
        hall call (List.mem_append_left _ hcall)
    exact stepReading_again hco hco' (hall (c, reads) (by simp)) (hall (c, reads') (by simp))
      hsame hc

/-- A check of all names while an experiment is added to the manifest, and calls after it. -/
theorem compiled_once_extended :
    let s := start [] (.ofInt 5) .missing
    let added : Snapshot := extended 1
    let calls := [(.faults, extended), (.check "odd", fun _ => added),
      (.variant "banner" [("user_id", .text "u1")], fun _ => added), (.faults, fun _ => added),
      (Call.check "odd", fun _ => added)]
    (∀ call ∈ calls, ReadsFrom (fun n => (extended n).manifest) call.2) ∧
      compiledIn (s.noticesReading calls) = ["banner"] ∧
      (s.looksReading calls).map (·.name) = ["banner", "odd", "banner", "banner", "odd", "odd"] ∧
      ((s.looksReading calls).flatMap (·.told)).Nodup := by
  intro s added calls
  have hreads : ReadsFrom (fun n => (extended n).manifest) extended := by
    intro n
    by_cases hn : n = 0 <;> simp [extended, hn]
  have hadded : ReadsFrom (fun n => (extended n).manifest) fun _ => added := fun _ => hreads 1
  have hcalls : ∀ call ∈ calls, ReadsFrom (fun n => (extended n).manifest) call.2 := by
    simp [calls, hreads, hadded]
  have hrun : compiledIn (s.noticesReading calls) = ["banner"] ∧
      (s.looksReading calls).map (·.name) = ["banner", "odd", "banner", "banner", "odd", "odd"] ∧
      ∀ l ∈ s.looksReading calls, l.document = 1 := by
    decide +kernel
  obtain ⟨hnames, hlooks, hdocument⟩ := hrun
  obtain ⟨-, hstretch, -, -⟩ := compiled_once [] (.ofInt 5) .missing hcalls
  exact ⟨hcalls, hnames, hlooks, hstretch _ 1 (List.infix_refl _) hdocument⟩

end Session
end SplitTest
