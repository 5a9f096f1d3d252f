import SplitTest.Proofs.Experiment.Label
import SplitTest.Proofs.Text.Joined

/-! What labels identify. Name, key and value can be told from a label once it is known how many
colons the name and the key have; otherwise a colon inside of a part may be taken for one that joins
two. -/
namespace SplitTest.Experiment

variable {x y : Experiment} {args others : Arguments} {s t : String}

/-- The name has as many colons as that of another experiment, and so has the key. -/
structure SameColons (x y : Experiment) : Prop where
  name : x.name.toList.count ':' = y.name.toList.count ':'
  bucketKey : x.bucketKey.toList.count ':' = y.bucketKey.toList.count ':'

theorem toList_labelText (x : Experiment) (s : String) :
    (x.labelText s).toList =
      x.name.toList ++ ':' :: (x.bucketKey.toList ++ ':' :: s.toList) := by
  simp [labelText]

theorem labelText_eq_iff (h : x.SameColons y) : x.labelText s = y.labelText t ↔
    x.name = y.name ∧ x.bucketKey = y.bucketKey ∧ s = t := by
  rw [← String.toList_inj, toList_labelText, toList_labelText, append_mark_inj_of_count h.name,
    append_mark_inj_of_count h.bucketKey, String.toList_inj, String.toList_inj, String.toList_inj]

theorem requestLabel_of_find? (h : Assoc.find? x.bucketKey args = some (.text s)) :
    x.requestLabel args = .ok (x.labelText s) := by
  unfold requestLabel
  rw [h]
  rfl

/-- Requests that have the same label, and experiments with as many colons in their names and in
their keys: these are exactly those with the same name, the same key and the same value under it. -/
theorem requestLabel_identifies_iff (hs : Assoc.find? x.bucketKey args = some (.text s))
    (ht : Assoc.find? y.bucketKey others = some (.text t)) :
    ∃ label other, x.requestLabel args = .ok label ∧ y.requestLabel others = .ok other ∧
      (label = other ∧ x.SameColons y ↔ x.name = y.name ∧ x.bucketKey = y.bucketKey ∧ s = t) := by
  refine ⟨_, _, requestLabel_of_find? hs, requestLabel_of_find? ht, ?_, ?_⟩
  · rintro ⟨hlabel, hcolons⟩
    exact (labelText_eq_iff hcolons).mp hlabel
  · rintro ⟨hname, hkey, hvalue⟩
    have hcolons : x.SameColons y := ⟨by rw [hname], by rw [hkey]⟩
    exact ⟨(labelText_eq_iff hcolons).mpr ⟨hname, hkey, hvalue⟩, hcolons⟩

/-- The offer under another name, placed by the default argument. -/
def offerNamed (name : String) : Configuration :=
  { memberOffer with
    name
    definition := { memberOffer.definition with bucketKey := "" } }

theorem compile_offerNamed : ∀ name ∈ ["offer", "offer:user_id", "spring:offer", "spring:sale"],
    Except.Yields (fun x => x.name = name ∧ x.bucketKey = "user_id")
      (compile (offerNamed name)) := by
  decide +kernel

/-- The arguments of a request with a value under the default argument. -/
def requestOf (s : String) : Arguments := [("user_id", .text s)]

theorem find?_requestOf (h : x.bucketKey = "user_id") :
    Assoc.find? x.bucketKey (requestOf s) = some (.text s) := by
  rw [h]
  rfl

/-- Names with one colon each, and values with one more. -/
theorem requestLabel_identifies_iff_oneColon :
    ∃ x y, compile (offerNamed "spring:offer") = .ok x ∧
      compile (offerNamed "spring:sale") = .ok y ∧
      Assoc.find? x.bucketKey (requestOf "id:1") = some (.text "id:1") ∧
      Assoc.find? y.bucketKey (requestOf "id:1") = some (.text "id:1") ∧ x.SameColons y ∧
      x.requestLabel (requestOf "id:1") ≠ y.requestLabel (requestOf "id:1") := by
  obtain ⟨x, hx, hxname, hxkey⟩ :=
    Except.yields_iff.mp (compile_offerNamed "spring:offer" (by simp))
  obtain ⟨y, hy, hyname, hykey⟩ :=
    Except.yields_iff.mp (compile_offerNamed "spring:sale" (by simp))
  have hs : Assoc.find? x.bucketKey (requestOf "id:1") = some (.text "id:1") :=
    find?_requestOf hxkey
  have ht : Assoc.find? y.bucketKey (requestOf "id:1") = some (.text "id:1") :=
    find?_requestOf hykey
  have hcolons : x.SameColons y := by
    constructor
    · rw [hxname, hyname]
      decide
    · rw [hxkey, hykey]
  obtain ⟨label, other, hlabel, hother, hiff⟩ := requestLabel_identifies_iff hs ht
  refine ⟨x, y, hx, hy, hs, ht, hcolons, fun hsame => ?_⟩
  rw [hlabel, hother] at hsame
  have hname := (hiff.mp ⟨Except.ok.inj hsame, hcolons⟩).1
  rw [hxname, hyname] at hname
  exact absurd hname (by decide)

/-- The key after a colon may belong to the name of an experiment or to the value of a request. -/
theorem not_identified_keyInName :
    ∃ x y, compile (offerNamed "offer") = .ok x ∧ compile (offerNamed "offer:user_id") = .ok y ∧
      x.requestLabel (requestOf "user_id:u1") = .ok "offer:user_id:user_id:u1" ∧
      y.requestLabel (requestOf "u1") = .ok "offer:user_id:user_id:u1" ∧ x.name ≠ y.name := by
  obtain ⟨x, hx, hxname, hxkey⟩ :=
    Except.yields_iff.mp (compile_offerNamed "offer" (by simp))
  obtain ⟨y, hy, hyname, hykey⟩ :=
    Except.yields_iff.mp (compile_offerNamed "offer:user_id" (by simp))
  refine ⟨x, y, hx, hy, ?_, ?_, ?_⟩
  · rw [requestLabel_of_find? (find?_requestOf hxkey), labelText, hxname, hxkey]
    rfl
  · rw [requestLabel_of_find? (find?_requestOf hykey), labelText, hyname, hykey]
    rfl
  · rw [hxname, hyname]
    decide

end SplitTest.Experiment
