import Mathlib.Tactic.Common
import SplitTest.Session
import SplitTest.Proofs.Assoc

/-! Transparency of the registry: what it keeps never shows. Each compiled experiment that it has is
the one that its snapshot describes, so its answers are those of compiling afresh. -/
namespace SplitTest

namespace Manifest

/-- Whether an experiment compiles, compiled afresh. -/
def check (m : Manifest) (name : String) : Except RegistryError Unit :=
  (m.experiment name).map fun _ => ()

/-- Why experiments do not compile, each compiled afresh from a manifest of its own. An error that
is no fault ends the search. -/
def faultsAmong : List (String × Manifest) → Except RegistryError (List (String × RegistryError))
  | [] => .ok []
  | (name, m) :: rest =>
    match m.experiment name with
    | .ok _ => faultsAmong rest
    | .error e => if e.isFault then (faultsAmong rest).map ((name, e) :: ·) else .error e

/-- Why experiments of a manifest do not compile. -/
def faults (m : Manifest) : Except RegistryError (List (String × RegistryError)) :=
  faultsAmong (m.names.map fun name => (name, m))

end Manifest

namespace Registry

variable {contents : Nat → Manifest} {r : Registry} {s : Snapshot}

/-- All that a registry keeps is compiled from the snapshot it is from. -/
def Coherent (contents : Nat → Manifest) (r : Registry) : Prop :=
  ∀ n, r.snapshot = some n → ∀ name x, Assoc.find? name r.compiled = some x →
    (contents n).experiment name = .ok x

theorem empty_coherent : empty.Coherent contents := by
  intro n hn
  cases hn

theorem refresh_snapshot : (r.refresh s).snapshot = some s.number := by
  unfold refresh
  split_ifs with h
  · exact h
  · rfl

theorem refresh_coherent (h : r.Coherent contents) : (r.refresh s).Coherent contents := by
  unfold refresh
  split_ifs
  · exact h
  · intro n _ name x hx
    simp at hx

theorem insert_coherent (h : r.Coherent contents) (hn : r.snapshot = some s.number)
    {name : String} {x : Experiment} (hx : (contents s.number).experiment name = .ok x) :
    Coherent contents { r with compiled := Assoc.insert name x r.compiled } := by
  intro n hn' other y hy
  have hs : n = s.number := Option.some.inj (hn'.symm.trans hn)
  subst hs
  by_cases ho : other = name
  · subst ho
    rw [Assoc.find?_insert_self] at hy
    exact Option.some.inj hy ▸ hx
  · rw [Assoc.find?_insert_of_ne ho] at hy
    exact h _ hn other y hy

/-- What a look-up gives is what compiling gives, and the registry stays coherent. -/
theorem lookup_spec (h : r.Coherent contents) (hs : s.manifest = contents s.number)
    (name : String) :
    (r.lookup s name).value = s.manifest.experiment name ∧
      (r.lookup s name).registry.Coherent contents := by
  have hr := refresh_coherent (s := s) h
  have hn := refresh_snapshot (r := r) (s := s)
  unfold lookup
  dsimp only
  cases hf : Assoc.find? name (r.refresh s).compiled with
  | some x => exact ⟨hs ▸ (hr _ hn name x hf).symm, hr⟩
  | none =>
    cases hx : s.manifest.experiment name with
    | error e => exact ⟨rfl, hr⟩
    | ok x => exact ⟨rfl, insert_coherent hr hn (hs ▸ hx)⟩

theorem variant_spec (h : r.Coherent contents) (hs : s.manifest = contents s.number)
    (now : Double) (name : String) (args : Arguments) :
    (r.variant s now name args).value = s.manifest.variant now name args ∧
      (r.variant s now name args).registry.Coherent contents := by
  obtain ⟨hv, hr⟩ := lookup_spec h hs name
  unfold variant Manifest.variant
  dsimp only
  rw [← hv]
  cases hx : (r.lookup s name).value with
  | error e => exact ⟨rfl, hr⟩
  | ok x => exact ⟨rfl, hr⟩

theorem check_spec (h : r.Coherent contents) (hs : s.manifest = contents s.number)
    (name : String) :
    (r.check s name).value = s.manifest.check name ∧
      (r.check s name).registry.Coherent contents := by
  obtain ⟨hv, hr⟩ := lookup_spec h hs name
  exact ⟨congrArg (Except.map fun _ => ()) hv, hr⟩

theorem faultsAmong_spec {entries : List (String × Snapshot)} (h : r.Coherent contents)
    (hs : ∀ entry ∈ entries, entry.2.manifest = contents entry.2.number) :
    (r.faultsAmong entries).value =
        Manifest.faultsAmong (entries.map fun entry => (entry.1, entry.2.manifest)) ∧
      (r.faultsAmong entries).registry.Coherent contents := by
  induction entries generalizing r with
  | nil => exact ⟨rfl, h⟩
  | cons entry rest ih =>
    obtain ⟨name, s⟩ := entry
    obtain ⟨hv, hr⟩ := lookup_spec h (hs (name, s) (by simp)) name
    obtain ⟨hrest, hrest'⟩ := ih hr fun e he => hs e (by simp [he])
    simp only [faultsAmong, List.map_cons, Manifest.faultsAmong]
    rw [← hv]
    cases hx : (r.lookup s name).value with
    | ok x => exact ⟨hrest, hrest'⟩
    | error e =>
      dsimp only
      split_ifs
      · exact ⟨by rw [hrest], hrest'⟩
      · exact ⟨rfl, hr⟩

theorem faults_spec (h : r.Coherent contents) (hs : s.manifest = contents s.number) :
    (r.faults fun _ => s).value = s.manifest.faults ∧
      (r.faults fun _ => s).registry.Coherent contents := by
  have hentries : (s.manifest.names.mapIdx fun _ name => (name, s)) =
      s.manifest.names.map fun name => (name, s) :=
    List.mapIdx_eq_iff.mpr fun _ => List.getElem?_map
  have hall : ∀ entry ∈ s.manifest.names.map fun name => (name, s),
      entry.2.manifest = contents entry.2.number := by
    simpa using fun _ _ => hs
  obtain ⟨hv, hr⟩ := faultsAmong_spec h hall
  unfold faults Manifest.faults
  rw [hentries]
  rw [List.map_map] at hv
  exact ⟨hv, hr⟩

end Registry

/-- A session that keeps no experiments: what is asked for is compiled afresh from the manifest
that is current. -/
structure UncachedSession where
  manifest : Manifest
  now : Double
  log : ExposureLog

namespace UncachedSession

def step (s : UncachedSession) : Call → Reply × UncachedSession
  | .swap snapshot => (.done, { s with manifest := snapshot.manifest })
  | .setClock now => (.done, { s with now })
  | .setLog log => (.done, { s with log })
  | .names => (.names s.manifest.names, s)
  | .config name => (.config (s.manifest.config name), s)
  | .variant name args => (.variant (s.manifest.variant s.now name args), s)
  | .check name => (.checked (s.manifest.check name), s)
  | .faults => (.faults s.manifest.faults, s)
  | .expose name event context =>
    let (outcome, log) := s.log.expose s.manifest name event context
    (.exposed outcome, { s with log })

def run (s : UncachedSession) : List Call → List Reply × UncachedSession
  | [] => ([], s)
  | c :: rest =>
    let (reply, s) := s.step c
    let (replies, s) := s.run rest
    (reply :: replies, s)

end UncachedSession

/-- The snapshot that a call makes current, if it does so. -/
def Call.snapshot? : Call → Option Snapshot
  | .swap snapshot => some snapshot
  | _ => none

/-- Snapshots with the same number are the same one: none is changed once it is handed out. -/
def Unchanging (snapshots : List Snapshot) : Prop :=
  ∀ s ∈ snapshots, ∀ t ∈ snapshots, s.number = t.number → s.manifest = t.manifest

theorem Unchanging.exists_contents {snapshots : List Snapshot} (h : Unchanging snapshots) :
    ∃ contents : Nat → Manifest, ∀ s ∈ snapshots, s.manifest = contents s.number := by
  refine ⟨fun n => ((snapshots.find? (·.number == n)).map (·.manifest)).getD [], ?_⟩
  intro s hs
  cases hf : snapshots.find? (·.number == s.number) with
  | none => simpa using List.find?_eq_none.mp hf s hs
  | some t =>
    have hn : t.number = s.number := by simpa using List.find?_some hf
    have hm := h s hs t (List.mem_of_find?_eq_some hf) hn.symm
    simpa [hf] using hm

namespace Session

variable {contents : Nat → Manifest}

def uncached (s : Session) : UncachedSession :=
  ⟨s.snapshot.manifest, s.now, s.log⟩

/-- The snapshot is the one of its number, and what the registry keeps is compiled from its own. -/
structure Coherent (contents : Nat → Manifest) (s : Session) : Prop where
  snapshot : s.snapshot.manifest = contents s.snapshot.number
  registry : s.registry.Coherent contents

/-- One call is answered as without the registry and leaves the session coherent. -/
theorem step_spec {s : Session} (h : s.Coherent contents) (c : Call)
    (hc : ∀ t ∈ c.snapshot?, t.manifest = contents t.number) :
    (s.step c).1 = (s.uncached.step c).1 ∧
      (s.step c).2.1.uncached = (s.uncached.step c).2 ∧ (s.step c).2.1.Coherent contents := by
  cases c with
  | swap t => exact ⟨rfl, rfl, hc t rfl, h.registry⟩
  | setClock now => exact ⟨rfl, rfl, h.snapshot, h.registry⟩
  | setLog log => exact ⟨rfl, rfl, h.snapshot, h.registry⟩
  | names => exact ⟨rfl, rfl, h⟩
  | config name => exact ⟨rfl, rfl, h⟩
  | variant name args =>
    obtain ⟨hv, hr⟩ := Registry.variant_spec h.registry h.snapshot s.now name args
    exact ⟨congrArg Reply.variant hv, rfl, h.snapshot, hr⟩
  | check name =>
    obtain ⟨hv, hr⟩ := Registry.check_spec h.registry h.snapshot name
    exact ⟨congrArg Reply.checked hv, rfl, h.snapshot, hr⟩
  | faults =>
    obtain ⟨hv, hr⟩ := Registry.faults_spec h.registry h.snapshot
    exact ⟨congrArg Reply.faults hv, rfl, h.snapshot, hr⟩
  | expose name event context => exact ⟨rfl, rfl, h.snapshot, h.registry⟩

theorem run_spec {s : Session} (h : s.Coherent contents) (calls : List Call)
    (hc : ∀ c ∈ calls, ∀ t ∈ c.snapshot?, t.manifest = contents t.number) :
    (s.run calls).1 = (s.uncached.run calls).1 ∧
      (s.run calls).2.uncached = (s.uncached.run calls).2 ∧
      (s.run calls).2.Coherent contents := by
  -- On the calls, for every coherent session: the first call leads from one to another.
  induction calls generalizing s with
  | nil => exact ⟨rfl, rfl, h⟩
  | cons c rest ih =>
    obtain ⟨hreply, hstate, hco⟩ := step_spec h c (hc c (by simp))
    obtain ⟨hreplies, hstates, hcos⟩ := ih hco fun d hd => hc d (by simp [hd])
    simp only [run, UncachedSession.run]
    rw [hstate] at hreplies hstates
    exact ⟨by rw [hreply, hreplies], hstates, hcos⟩

theorem start_coherent {manifest : Manifest} {now : Double} {log : ExposureLog}
    (h : manifest = contents 0) : (start manifest now log).Coherent contents :=
  ⟨h, Registry.empty_coherent⟩

/-- Every run is answered call by call as if each experiment were compiled afresh from the manifest
that is current, and leaves manifest, clock and exposure log the same. -/
theorem run_eq_uncached (manifest : Manifest) (now : Double) (log : ExposureLog)
    (calls : List Call)
    (h : Unchanging (⟨0, manifest⟩ :: calls.filterMap Call.snapshot?)) :
    ((start manifest now log).run calls).1 = (UncachedSession.run ⟨manifest, now, log⟩ calls).1 ∧
      ((start manifest now log).run calls).2.uncached =
        (UncachedSession.run ⟨manifest, now, log⟩ calls).2 := by
  obtain ⟨contents, hall⟩ := h.exists_contents
  have hstart : (start manifest now log).Coherent contents :=
    start_coherent (hall ⟨0, manifest⟩ (by simp))
  have hcalls : ∀ c ∈ calls, ∀ t ∈ c.snapshot?, t.manifest = contents t.number := by
    intro c hc t ht
    exact hall t (List.mem_cons_of_mem _ (List.mem_filterMap.mpr ⟨c, hc, ht⟩))
  obtain ⟨hreplies, hstate, -⟩ := run_spec hstart calls hcalls
  exact ⟨hreplies, hstate⟩

/-- A feature that is shown to everyone in the first ten seconds. -/
def shownToAll : Configuration where
  id := 1
  name := "banner"
  owner := ""
  enabled := none
  version := ""
  type := "feature_rollout"
  startTs := .ofInt 0
  stopTs := .ofInt 10
  definition := { Definition.empty with variants := [⟨"on", .ofInt 1, .ofInt 0, .ofInt 0⟩] }

/-- An experiment that is compiled, swapped out, missed, swapped back in and used. -/
theorem run_eq_uncached_swapped_back :
    Unchanging [⟨0, [("banner", shownToAll)]⟩, ⟨1, []⟩, ⟨0, [("banner", shownToAll)]⟩] ∧
      ((start [("banner", shownToAll)] (.ofInt 5) .missing).run
        [.check "banner", .swap ⟨1, []⟩, .check "banner",
          .swap ⟨0, [("banner", shownToAll)]⟩, .variant "banner" [("user_id", .text "u1")],
          .faults]).1 =
      (UncachedSession.run ⟨[("banner", shownToAll)], .ofInt 5, .missing⟩
        [.check "banner", .swap ⟨1, []⟩, .check "banner",
          .swap ⟨0, [("banner", shownToAll)]⟩, .variant "banner" [("user_id", .text "u1")],
          .faults]).1 := by
  have h : Unchanging [⟨0, [("banner", shownToAll)]⟩, ⟨1, []⟩, ⟨0, [("banner", shownToAll)]⟩] := by
    simp [Unchanging]
  exact ⟨h, (run_eq_uncached _ _ _ _ h).1⟩

end Session
end SplitTest
