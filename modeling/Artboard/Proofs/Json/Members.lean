import Mathlib.Data.List.Nodup
import Artboard.Proofs.Json.Record

/-!
# What members come to

A record in object form is read member by member, yet their order makes no difference:
each member contributes a change under its name, or nothing, and the record is made of the
contributions, provided that every member can be read and that no name contributes twice.
So what an edit of the members does to a record shows in what it does to the contributions.
-/

namespace Artboard
namespace Json
namespace Record

variable {α : Type} (fields : List (RecordField α)) (budget : Nat)

/-- What the value of a key contributes to a record: nothing when the key is not the name
of a field. -/
def contribution? (key : String) (value : Source) : Option (Option (String × (α → α))) :=
  match fields.find? (·.name == key) with
  | none => some none
  | some field => (meaning? (field.read budget) value).map fun change => some (key, change)

/-- A member without the blanks in it. -/
def bare (member : Label × Source) : List Piece × Source :=
  (member.1.key, member.2)

/-- What a member contributes, if its key says something and its value can be read. -/
def offered? (member : List Piece × Source) : Option (Option (String × (α → α))) :=
  (said? member.1).bind fun key => contribution? fields budget key member.2

/-- Everything that members contribute. -/
def offers (members : List (List Piece × Source)) : Found α :=
  members.filterMap fun member => (offered? fields budget member).join

/-- Every member can be read, and no name contributes twice. -/
structure Admits (members : List (List Piece × Source)) : Prop where
  readable : ∀ member ∈ members, (offered? fields budget member).isSome = true
  once : ((offers fields budget members).map Prod.fst).Nodup

theorem isSome_lookup_iff {found : Found α} {key : String} :
    (found.lookup key).isSome = true ↔ key ∈ found.map Prod.fst := by
  simp [List.lookup_isSome_iff]

theorem offers_cons (member : List Piece × Source) (members : List (List Piece × Source)) :
    offers fields budget (member :: members) =
      (offered? fields budget member).join.toList ++ offers fields budget members := by
  rw [offers, List.filterMap_cons]
  cases (offered? fields budget member).join <;> rfl

theorem offers_append (front back : List (List Piece × Source)) :
    offers fields budget (front ++ back) =
      offers fields budget front ++ offers fields budget back :=
  List.filterMap_append

/-- Members that all contribute. -/
theorem offers_map {rows : List ρ} {member : ρ → List Piece × Source}
    {found : ρ → String × (α → α)}
    (offered : ∀ row ∈ rows, offered? fields budget (member row) = some (some (found row))) :
    offers fields budget (rows.map member) = rows.map found := by
  induction rows with
  | nil => rfl
  | cons row rows inductionHypothesis =>
      rw [List.forall_mem_cons] at offered
      rw [List.map_cons, List.map_cons, offers_cons, offered.1, inductionHypothesis offered.2]
      rfl

/-- One member adds what it contributes, unless that was found before. -/
theorem stepMember_stepFound (made : Found α) (member : Label × Source) :
    stepMember (stepFound fields budget) made member =
      (offered? fields budget (bare member)).bind fun offer =>
        match offer with
        | none => some made
        | some found =>
          if (made.lookup found.1).isSome then none else some (made ++ [found]) := by
  rw [stepMember, offered?, bare]
  cases said? member.1.key with
  | none => rfl
  | some key =>
      simp only [Option.bind_some, stepFound, contribution?]
      cases fields.find? (·.name == key) with
      | none => rfl
      | some field => cases read : meaning? (field.read budget) member.2 <;> simp [read]

/-- Going through the members adds what they contribute to what was found before. -/
theorem foldlM_stepFound (members : List (Label × Source)) (made found : Found α)
    (distinct : (made.map Prod.fst).Nodup) :
    members.foldlM (stepMember (stepFound fields budget)) made = some found ↔
      (∀ member ∈ members.map bare, (offered? fields budget member).isSome = true) ∧
        ((made ++ offers fields budget (members.map bare)).map Prod.fst).Nodup ∧
        made ++ offers fields budget (members.map bare) = found := by
  induction members generalizing made with
  | nil => simp [offers, distinct]
  | cons member members inductionHypothesis =>
      rw [List.foldlM_cons, List.map_cons, offers_cons, List.forall_mem_cons,
        stepMember_stepFound]
      cases offered? fields budget (bare member) with
      | none => simp
      | some offer =>
          cases offer with
          | none =>
              have further := inductionHypothesis made distinct
              simpa using further
          | some offer =>
              by_cases again : (made.lookup offer.1).isSome = true
              · have twice : ¬((made ++ (offer :: offers fields budget (members.map bare))).map
                    Prod.fst).Nodup := by
                  rw [List.map_append, List.map_cons, List.nodup_append]
                  rintro ⟨-, -, apart⟩
                  exact apart offer.1 (isSome_lookup_iff.mp again) offer.1 List.mem_cons_self rfl
                simp only [Option.bind_some, again, if_true, Option.join_some,
                  Option.toList_some, List.singleton_append, twice, false_and, and_false,
                  iff_false]
                exact nofun
              · have once : ((made ++ [offer]).map Prod.fst).Nodup := by
                  rw [List.map_append, List.nodup_append]
                  refine ⟨distinct, by simp, ?_⟩
                  intro name earlier other last same
                  rw [List.map_cons, List.map_nil, List.mem_singleton, ← same] at last
                  rw [last] at earlier
                  exact again (isSome_lookup_iff.mpr earlier)
                have further := inductionHypothesis (made ++ [offer]) once
                rw [List.append_assoc, List.singleton_append] at further
                simpa [again] using further

/-- A record in object form can be read exactly when its members are admitted and nothing
required is missing; it is then made of what the members contribute. -/
theorem objectMeaning?_eq_some_iff (kind : Record α) (members : List (Label × Source))
    (record : α) :
    kind.objectMeaning? budget members = some record ↔
      Admits kind.fields budget (members.map bare) ∧
        assemble (offers kind.fields budget (members.map bare)) kind.fields kind.blank =
          .ok record := by
  rw [objectMeaning?, Option.bind_eq_some_iff]
  constructor
  · rintro ⟨found, gathered, assembled⟩
    obtain ⟨readable, once, rfl⟩ :=
      (foldlM_stepFound kind.fields budget members [] found List.nodup_nil).mp gathered
    exact ⟨⟨readable, once⟩, eq_ok_iff_toOption.mpr assembled⟩
  · rintro ⟨admits, assembled⟩
    refine ⟨offers kind.fields budget (members.map bare), ?_, by rw [assembled]; rfl⟩
    exact (foldlM_stepFound kind.fields budget members [] _ List.nodup_nil).mpr
      ⟨admits.readable, admits.once, rfl⟩

/-! ## Making a record of what was found -/

variable {fields} {budget}

/-- Only what was found for the fields counts. -/
theorem assemble_congr {found other : Found α} {fields : List (RecordField α)} (base : α)
    (same : ∀ field ∈ fields, found.lookup field.name = other.lookup field.name) :
    assemble found fields base = assemble other fields base := by
  induction fields generalizing base with
  | nil => rfl
  | cons field fields inductionHypothesis =>
      have here := same field List.mem_cons_self
      have further := fun base =>
        inductionHypothesis base fun other member => same other (List.mem_cons_of_mem field member)
      simp only [assemble, here, further]

theorem lookup_eq_some_iff_mem {found : Found α} (once : (found.map Prod.fst).Nodup)
    {name : String} {change : α → α} :
    found.lookup name = some change ↔ (name, change) ∈ found := by
  rw [List.lookup_eq_some_iff]
  constructor
  · rintro ⟨front, back, rfl, -⟩
    exact List.mem_append_right front List.mem_cons_self
  · intro member
    obtain ⟨front, back, rfl⟩ := List.append_of_mem member
    refine ⟨front, back, rfl, fun entry earlier => ?_⟩
    rw [List.map_append, List.map_cons, List.nodup_append] at once
    have apart := once.2.2 entry.1 (List.mem_map_of_mem earlier) name List.mem_cons_self
    simpa using apart.symm

theorem lookup_perm {found other : Found α} (permuted : found.Perm other)
    (once : (found.map Prod.fst).Nodup) (name : String) :
    found.lookup name = other.lookup name := by
  have onceOther : (other.map Prod.fst).Nodup := (permuted.map Prod.fst).nodup once
  ext change
  rw [lookup_eq_some_iff_mem once, lookup_eq_some_iff_mem onceOther, permuted.mem_iff]

/-- One of the contributions is left out, and the others are as before. -/
structure Drops (whole : Found α) (name : String) (change : α → α) (left : Found α) : Prop where
  present : whole.lookup name = some change
  absent : left.lookup name = none
  same : ∀ other, other ≠ name → left.lookup other = whole.lookup other

theorem drops_of_nodup {front back : Found α} {name : String} {change : α → α}
    (once : ((front ++ (name, change) :: back).map Prod.fst).Nodup) :
    Drops (front ++ (name, change) :: back) name change (front ++ back) where
  present :=
    (lookup_eq_some_iff_mem once).mpr (List.mem_append_right front List.mem_cons_self)
  absent := by
    rw [List.map_append, List.map_cons] at once
    rw [← Option.not_isSome_iff_eq_none, isSome_lookup_iff, List.map_append]
    exact (List.nodup_cons.mp (List.nodup_middle.mp once)).1
  same := by
    intro other different
    rw [List.lookup_append, List.lookup_append, List.lookup_cons, beq_false_of_ne different]

/-! ## Editing members -/

variable {kind : Record α} {front back members others : List (Label × Source)} {record : α}

/-- Members may stand in any order, with any blanks between them. -/
theorem objectMeaning?_perm (permuted : (members.map bare).Perm (others.map bare))
    (read : kind.objectMeaning? budget members = some record) :
    kind.objectMeaning? budget others = some record := by
  rw [objectMeaning?_eq_some_iff] at read ⊢
  obtain ⟨⟨readable, once⟩, assembled⟩ := read
  have found : (offers kind.fields budget (members.map bare)).Perm
      (offers kind.fields budget (others.map bare)) := permuted.filterMap _
  refine ⟨⟨?_, (found.map Prod.fst).nodup once⟩, ?_⟩
  · intro member here
    exact readable member (permuted.mem_iff.mpr here)
  · rw [← assembled]
    exact assemble_congr kind.blank fun field _ => (lookup_perm found once field.name).symm

/-- A member that contributes nothing may stand anywhere. -/
theorem objectMeaning?_insert {member : Label × Source}
    (ignored : offered? kind.fields budget (bare member) = some none)
    (read : kind.objectMeaning? budget (front ++ back) = some record) :
    kind.objectMeaning? budget (front ++ member :: back) = some record := by
  have found : offers kind.fields budget ((front ++ member :: back).map bare) =
      offers kind.fields budget ((front ++ back).map bare) := by
    simp only [List.map_append, List.map_cons, offers_append, offers_cons, ignored]
    rfl
  rw [objectMeaning?_eq_some_iff] at read ⊢
  obtain ⟨⟨readable, once⟩, assembled⟩ := read
  rw [found]
  refine ⟨⟨?_, by rwa [found]⟩, assembled⟩
  simp only [List.map_append, List.map_cons, List.forall_mem_append, List.forall_mem_cons]
    at readable ⊢
  exact ⟨readable.1, by rw [ignored]; rfl, readable.2⟩

/-- The others are still admitted when a member is left out that contributed. -/
theorem Admits.drop {member : Label × Source} {name : String} {change : α → α}
    (contributed : offered? kind.fields budget (bare member) = some (some (name, change)))
    (admits : Admits kind.fields budget ((front ++ member :: back).map bare)) :
    Admits kind.fields budget ((front ++ back).map bare) ∧
      Drops (offers kind.fields budget ((front ++ member :: back).map bare)) name change
        (offers kind.fields budget ((front ++ back).map bare)) := by
  obtain ⟨readable, once⟩ := admits
  have found : offers kind.fields budget ((front ++ member :: back).map bare) =
      offers kind.fields budget (front.map bare) ++
        (name, change) :: offers kind.fields budget (back.map bare) := by
    simp only [List.map_append, List.map_cons, offers_append, offers_cons, contributed]
    rfl
  have left : offers kind.fields budget ((front ++ back).map bare) =
      offers kind.fields budget (front.map bare) ++ offers kind.fields budget (back.map bare) := by
    rw [List.map_append, offers_append]
  rw [found] at once
  rw [found, left]
  refine ⟨⟨?_, ?_⟩, drops_of_nodup once⟩
  · simp only [List.map_append, List.map_cons, List.forall_mem_append, List.forall_mem_cons]
      at readable ⊢
    exact ⟨readable.1, readable.2.2⟩
  · rw [left, List.map_append]
    rw [List.map_append, List.map_cons] at once
    exact (List.nodup_cons.mp (List.nodup_middle.mp once)).2

/-- A member may be replaced by one that contributes the same. -/
theorem objectMeaning?_replace {member other : Label × Source}
    (same : (offered? kind.fields budget (bare member)).isSome = true →
      offered? kind.fields budget (bare other) = offered? kind.fields budget (bare member))
    (read : kind.objectMeaning? budget (front ++ member :: back) = some record) :
    kind.objectMeaning? budget (front ++ other :: back) = some record := by
  rw [objectMeaning?_eq_some_iff] at read ⊢
  obtain ⟨⟨readable, once⟩, assembled⟩ := read
  simp only [List.map_append, List.map_cons, List.forall_mem_append, List.forall_mem_cons]
    at readable
  have here := same readable.2.1
  have found : offers kind.fields budget ((front ++ other :: back).map bare) =
      offers kind.fields budget ((front ++ member :: back).map bare) := by
    simp only [List.map_append, List.map_cons, offers_append, offers_cons, here]
  rw [found]
  refine ⟨⟨?_, by rwa [found]⟩, assembled⟩
  simp only [List.map_append, List.map_cons, List.forall_mem_append, List.forall_mem_cons]
  exact ⟨readable.1, by rw [here]; exact readable.2.1, readable.2.2⟩

end Record
end Json
end Artboard
