import DataclassSynthesis.Proofs.ClassVariables

/-!
# Attributes of a name

A name that is marked stays marked while the types grow, and a class body gives at most one
attribute for a name (`DataclassSynthesis.Attribute.named_ownAttributes`).
-/

namespace DataclassSynthesis

/-- A marked name stays marked while the types grow. -/
theorem LocalSummary.marked?_of_grows {before after : TypeContext} (grows : before.Grows after)
    {summary : LocalSummary} {marker : Container} {inner : TypeId}
    (marked : summary.marked? before marker = some inner) :
    summary.marked? after marker = some inner := by
  obtain ⟨type, typed, argument⟩ := Option.bind_eq_some_iff.mp marked
  obtain ⟨arguments, found, -⟩ := TypeContext.argumentOf?_eq_some_iff.mp argument
  rw [marked?, typed, Option.bind_some,
    grows.argumentOf?_eq (TypeContext.knows_of_get? found), argument]

namespace Attribute

variable {name : String} {names : List String} {give : String → Option Attribute}

/-- Of the attributes of some names there is none of any other name. -/
theorem named_filterMap_of_not_mem (called : ∀ other, ∀ attr ∈ give other, attr.name = other)
    (absent : name ∉ names) : named name (names.filterMap give) = [] := by
  refine List.filter_eq_nil_iff.mpr fun attr listed same => ?_
  obtain ⟨other, among, given⟩ := List.mem_filterMap.mp listed
  rw [← beq_iff_eq.mp same, called other attr given] at absent
  exact absent among

/-- Of the attributes of distinct names, the one of a name is what the name gives. -/
theorem named_filterMap (called : ∀ other, ∀ attr ∈ give other, attr.name = other)
    (distinct : names.Nodup) (listed : name ∈ names) :
    named name (names.filterMap give) = (give name).toList := by
  induction names with
  | nil => cases listed
  | cons first rest ih =>
    obtain ⟨fresh, others⟩ := List.nodup_cons.mp distinct
    have split : named name ((first :: rest).filterMap give) =
        named name (give first).toList ++ named name (rest.filterMap give) := by
      rw [named, named, named, ← List.filter_append]
      cases given : give first <;> simp [given]
    rw [split]
    rcases List.mem_cons.mp listed with rfl | later
    · rw [named_filterMap_of_not_mem called fresh, List.append_nil]
      cases given : give name with
      | none => rfl
      | some attr => simp [named, called name attr given]
    · have differ : first ≠ name := fun same => fresh (same ▸ later)
      have none : named name (give first).toList = [] := by
        cases given : give first with
        | none => rfl
        | some attr => simp [named, called first attr given, differ]
      rw [none, ih others later, List.nil_append]

/-- A class body gives at most one attribute for a name. -/
theorem named_ownAttributes (types : TypeContext) {body : Body}
    (listed : name ∈ body.attributeNames) :
    named name (body.ownAttributes types) = ((body.summary name).attribute? types name).toList := by
  have own : body.ownAttributes types =
      body.attributeNames.filterMap fun name => (body.summary name).attribute? types name :=
    List.filterMap_congr fun name _ => (body.attribute?_summary types name).symm
  rw [own]
  exact named_filterMap (fun _ _ given => LocalSummary.attribute?_name given)
    body.nodup_attributeNames listed

end Attribute

end DataclassSynthesis
