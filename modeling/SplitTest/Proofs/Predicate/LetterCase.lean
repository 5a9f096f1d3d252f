import SplitTest.Proofs.Predicate.Grammar

/-! The letter case of targeting documents: operators, and the fields that tests name, may be
written in any case. -/
namespace SplitTest

/-- Entries that are the same, or name the same field in another case. -/
inductive Entries.FieldRecased : Scalar × Value → Scalar × Value → Prop
  | same (entry : Scalar × Value) : FieldRecased entry entry
  | field {name other : String} (h : lowercase name = lowercase other) :
      FieldRecased (.text "field", .text name) (.text "field", .text other)

/-- Documents that are the same but for the case of operators and of the fields in operands. -/
inductive Value.Recased : Value → Value → Prop
  | same (v : Value) : Recased v v
  | node {key other : String} {v w : Value} (hk : lowercase key = lowercase other)
      (h : Recased v w) : Recased (.object [(.text key, v)]) (.object [(.text other, w)])
  -- By places and not by `Forall₂`, so that inductions come with a hypothesis for each item.
  | children {items others : List Value} (hl : items.length = others.length)
      (h : ∀ v w, (v, w) ∈ items.zip others → Recased v w) : Recased (.list items) (.list others)
  | operand {entries others : Entries} (h : List.Forall₂ Entries.FieldRecased entries others) :
      Recased (.object entries) (.object others)

theorem Entries.find?_of_recased {entries others : Entries}
    (h : List.Forall₂ FieldRecased entries others) (name : String) (hname : name ≠ "field") :
    entries.find? name = others.find? name := by
  induction h with
  | nil => rfl
  | cons hentry _ ih =>
    unfold find? at ih ⊢
    rw [Assoc.findBy?, Assoc.findBy?, ih]
    cases hentry with
    | same entry => rfl
    | field _ => simp [Ne.symm hname]

namespace Predicate

section Operands

variable {entries others : Entries} (h : List.Forall₂ Entries.FieldRecased entries others)
include h

theorem fieldOf_of_recased (kind : NodeKind) : fieldOf kind entries = fieldOf kind others := by
  induction h with
  | nil => rfl
  | cons hentry _ ih =>
    unfold fieldOf Entries.find? at ih ⊢
    rw [Assoc.findBy?, Assoc.findBy?]
    cases hentry with
    | same entry =>
      split_ifs
      · rfl
      · exact ih
    | field hname => simp [hname]

theorem acceptedValues_of_recased : acceptedValues entries = acceptedValues others := by
  unfold acceptedValues
  rw [Entries.find?_of_recased h "values" (by decide),
    Entries.find?_of_recased h "value" (by decide)]

end Operands

/-- What is read of two documents is the same, whatever place they stand at. -/
structure ReadAlike (v w : Value) : Prop where
  node : ofNode v = ofNode w
  operand : ∀ op, ofOperand op v = ofOperand op w

theorem ReadAlike.of_entry {entry other : Scalar × Value}
    (h : ofNode (.object [entry]) = ofNode (.object [other])) :
    ReadAlike (.object [entry]) (.object [other]) := by
  refine ⟨h, fun op => ?_⟩
  cases op with
  | not => simp only [ofOperand, h]
  | _ => rfl

theorem ofNode_field (operand : Value) :
    ofNode (.object [(.text "field", operand)]) = .error (.unknownOperator "field") := by
  have hlower : lowercase "field" = "field" := rfl
  have hnone : Operator.ofKey? "field" = none := rfl
  rw [ofNode_entry, hnone, hlower]

theorem ofNode_of_length {entries : Entries} (h : entries.length ≠ 1) :
    ofNode (.object entries) = .error (.node (.keyCount entries.length)) := by
  rw [ofNode.eq_def]
  cases entries with
  | nil => rfl
  | cons entry rest =>
    obtain ⟨key, operand⟩ := entry
    cases rest with
    | nil => exact absurd rfl h
    | cons => cases key <;> rfl

theorem readAlike_operand {entries others : Entries}
    (h : List.Forall₂ Entries.FieldRecased entries others) :
    ReadAlike (.object entries) (.object others) := by
  have hlength := h.length_eq
  have hvalue := Entries.find?_of_recased h "value" (by decide)
  have hfield := fieldOf_of_recased h
  have haccepted := acceptedValues_of_recased h
  have hcount (hne : entries.length ≠ 1) : ofNode (.object entries) = ofNode (.object others) := by
    rw [ofNode_of_length hne, ofNode_of_length (hlength ▸ hne), hlength]
  cases h with
  | nil => exact ⟨rfl, fun _ => rfl⟩
  | cons hentry hrest =>
    cases hrest with
    | nil =>
      cases hentry with
      | same => exact .of_entry rfl
      | field => exact .of_entry ((ofNode_field _).trans (ofNode_field _).symm)
    | cons _ hrest =>
      refine ⟨hcount (by simp), fun op => ?_⟩
      cases hrest with
      | nil =>
        cases op with
        | equal => simp only [ofOperand, equalOf, hfield, haccepted]
        | compare => simp only [ofOperand, compareOf, hfield, hvalue]
        | _ => rfl
      | cons => cases op <;> rfl

/-- Documents that are the same but for letter case are read alike. -/
theorem readAlike_of_recased {v w : Value} (h : v.Recased w) : ReadAlike v w := by
  induction h with
  | same v => exact ⟨rfl, fun _ => rfl⟩
  | @node key other v w hk _ ih =>
    have hnode : ofNode (.object [(.text key, v)]) = ofNode (.object [(.text other, w)]) := by
      rw [ofNode_entry, ofNode_entry, Operator.ofKey?, Operator.ofKey?, hk]
      cases Operator.ofName? (lowercase other) with
      | none => rfl
      | some op => exact ih.operand op
    exact .of_entry hnode
  | @children items others hl _ ih =>
    have hitems : items.mapM ofNode = others.mapM ofNode :=
      mapM_congr_of_forall₂ (List.forall₂_iff_zip.mpr ⟨hl, fun hmem => (ih _ _ hmem).node⟩)
    refine ⟨rfl, fun op => ?_⟩
    cases op with
    | all | any => simp only [ofOperand, hitems]
    | _ => rfl
  | operand h => exact readAlike_operand h

theorem compile_of_recased {v w : Value} (h : v.Recased w) : compile v = compile w := by
  have hnode := (readAlike_of_recased h).node
  cases h with
  | same => rfl
  | node => exact hnode
  | children => rfl
  | operand h =>
    cases h with
    | nil => rfl
    | cons _ hrest =>
      cases hrest with
      | nil => exact hnode
      | cons => rfl

end Predicate
end SplitTest
