import MessageExpr.Value.Display
import MessageExpr.Value.Equality
import Mathlib.Data.List.Forall2
import Mathlib.Logic.Relation

/-!
# Equality as a partial equivalence

Two collections are equal if their members are, one by one (`isEqual_iff`). So what holds of equal
numbers, truth values, texts, dates and host objects goes over to equal values of any depth
(`Equal.induction`).

Equality is symmetric and transitive. A value differs from itself exactly if not a number is in it
(`equal_self_iff`). Equal values are of one type and shape. They have one text if there are no numbers
in them; the two zeros are equal and have two. A host object is known by its identity alone, so the
type and the text are properties of values whose hosts have one description each (`HostsAgree`).
-/

set_option autoImplicit false

namespace MessageExpr

/-! ## Numbers -/

namespace Binary64

theorem numericallyEqual_comm (left right : Binary64) :
    left.numericallyEqual right = right.numericallyEqual left := by
  cases left <;> cases right <;> simp only [numericallyEqual]
  · exact Bool.beq_comm
  · rw [Bool.eq_iff_iff]
    grind

theorem numericallyEqual_trans {left middle right : Binary64}
    (first : left.numericallyEqual middle = true) (second : middle.numericallyEqual right = true) :
    left.numericallyEqual right = true := by
  cases left <;> cases middle <;> cases right <;>
    simp only [numericallyEqual, Bool.false_eq_true] at first second ⊢
  · grind
  · grind

theorem numericallyEqual_self_iff (number : Binary64) :
    number.numericallyEqual number = true ↔ number ≠ .nan := by
  cases number <;> simp [numericallyEqual]

end Binary64

namespace Value

/-! ## Values and their members -/

/-- The first value is an element or stands under a key of the second one. -/
inductive Member : Value → Value → Prop where
  | element {elements : List Value} {element : Value} (member : element ∈ elements) :
      Member element (.array elements)
  | entry {entries : List (String × Value)} {entry : String × Value} (member : entry ∈ entries) :
      Member entry.2 (.map entries)

/-- The first value is the second one or is in it, at any depth. -/
def Within : Value → Value → Prop := Relation.ReflTransGen Member

theorem within_iff {part whole : Value} :
    Within part whole ↔ whole = part ∨ ∃ member, Member member whole ∧ Within part member := by
  rw [Within, Relation.ReflTransGen.cases_tail_iff]
  simp only [and_comm]

theorem within_array_iff {part : Value} {elements : List Value} :
    Within part (.array elements) ↔
      .array elements = part ∨ ∃ element ∈ elements, Within part element := by
  rw [within_iff]
  refine or_congr_right (exists_congr fun element => and_congr_left fun _ => ⟨?_, .element⟩)
  rintro (isElement | _)
  exact isElement

theorem within_map_iff {part : Value} {entries : List (String × Value)} :
    Within part (.map entries) ↔
      .map entries = part ∨ ∃ entry ∈ entries, Within part entry.2 := by
  rw [within_iff]
  refine or_congr_right ⟨?_, ?_⟩
  · rintro ⟨_, (_ | isEntry), within⟩
    exact ⟨_, isEntry, within⟩
  · rintro ⟨entry, isEntry, within⟩
    exact ⟨entry.2, .entry isEntry, within⟩

theorem within_single_iff {part whole : Value} (noArray : whole.array? = none)
    (noMap : whole.map? = none) : Within part whole ↔ whole = part := by
  rw [within_iff]
  refine or_iff_left ?_
  rintro ⟨member, _ | _, -⟩
  · cases noArray
  · cases noMap

/-- A value has a property that goes over from members to collections. -/
theorem induction_members {motive : Value → Prop}
    (step : ∀ value, (∀ member, Member member value → motive member) → motive value)
    (value : Value) : motive value := by
  have single : ∀ value, value.array? = none → value.map? = none → motive value := by
    refine fun value noArray noMap => step value ?_
    rintro _ (_ | _)
    · cases noArray
    · cases noMap
  refine Value.rec (motive_1 := motive)
    (motive_2 := fun elements => ∀ element ∈ elements, motive element)
    (motive_3 := fun entries => ∀ entry ∈ entries, motive entry.2)
    (motive_4 := fun entry => motive entry.2) ?null ?any ?bool ?int ?double ?string ?date
    ?array ?map ?object ?noElements ?elements ?noEntries ?entries ?ofEntry value
  case array =>
    intro elements members
    refine step _ ?_
    rintro _ (isElement | _)
    exact members _ isElement
  case map =>
    intro entries members
    refine step _ ?_
    rintro _ (_ | isEntry)
    exact members _ isEntry
  case noElements => exact nofun
  case elements => exact fun _ _ first rest => List.forall_mem_cons.mpr ⟨first, rest⟩
  case noEntries => exact nofun
  case entries => exact fun _ _ first rest => List.forall_mem_cons.mpr ⟨first, rest⟩
  case ofEntry => exact fun _ _ => id
  all_goals intros; exact single _ rfl rfl

section Lists

variable {Left Middle Right : Type}

theorem forall₂_attach {related : Left → Right → Prop} {lefts : List Left} {rights : List Right}
    (all : List.Forall₂ related lefts rights) :
    List.Forall₂ (fun left right => left ∈ lefts ∧ right ∈ rights ∧ related left right)
      lefts rights := by
  induction all with
  | nil => exact .nil
  | cons here _ ih =>
      refine .cons ⟨List.mem_cons_self, List.mem_cons_self, here⟩ (ih.imp ?_)
      rintro left right ⟨isLeft, isRight, same⟩
      exact ⟨List.mem_cons_of_mem _ isLeft, List.mem_cons_of_mem _ isRight, same⟩

theorem forall₂_comp {related : Left → Middle → Prop} {other : Middle → Right → Prop}
    {lefts : List Left} {middles : List Middle} {rights : List Right}
    (first : List.Forall₂ related lefts middles) (second : List.Forall₂ other middles rights) :
    List.Forall₂ (Relation.Comp related other) lefts rights := by
  induction first generalizing rights with
  | nil => cases second; exact .nil
  | cons here _ ih =>
      cases second with
      | cons there behind => exact .cons ⟨_, here, there⟩ (ih behind)

theorem map_eq_map_iff {Image : Type} {image : Left → Image} {otherImage : Right → Image}
    {lefts : List Left} {rights : List Right} :
    lefts.map image = rights.map otherImage ↔
      List.Forall₂ (fun left right => image left = otherImage right) lefts rights := by
  rw [← List.forall₂_eq_eq_eq, List.forall₂_map_left_iff, List.forall₂_map_right_iff]

end Lists

/-- Values that are no collections are of one kind and have the same data. -/
inductive SameData : Value → Value → Prop where
  | null : SameData .null .null
  | any : SameData .any .any
  | bool (truth : Bool) : SameData (.bool truth) (.bool truth)
  | int (integer : Int64) : SameData (.int integer) (.int integer)
  | double {left right : Binary64} (same : left.numericallyEqual right = true) :
      SameData (.double left) (.double right)
  | string (text : String) : SameData (.string text) (.string text)
  | date (instant : Instant) : SameData (.date instant) (.date instant)
  | object {left right : HostObject} (same : left.identity = right.identity) :
      SameData (.object left) (.object right)

/-- Values have the same data, or are collections of one kind whose members are related one by
one. -/
inductive EqualBy (related : Value → Value → Prop) : Value → Value → Prop where
  | single {left right : Value} (same : SameData left right) : EqualBy related left right
  | array {left right : List Value} (members : List.Forall₂ related left right) :
      EqualBy related (.array left) (.array right)
  | map {left right : List (String × Value)}
      (members :
        List.Forall₂ (fun one other => one.1 = other.1 ∧ related one.2 other.2) left right) :
      EqualBy related (.map left) (.map right)

theorem SameData.symm {left right : Value} (same : SameData left right) : SameData right left := by
  cases same with
  | null => exact .null
  | any => exact .any
  | bool truth => exact .bool truth
  | int integer => exact .int integer
  | double same => exact .double (Binary64.numericallyEqual_comm _ _ ▸ same)
  | string text => exact .string text
  | date instant => exact .date instant
  | object same => exact .object same.symm

theorem SameData.trans {left middle right : Value} (first : SameData left middle)
    (second : SameData middle right) : SameData left right := by
  cases first with
  | null => exact second
  | any => exact second
  | bool truth => exact second
  | int integer => exact second
  | double same =>
      cases second with
      | double alsoSame => exact .double (Binary64.numericallyEqual_trans same alsoSame)
  | string text => exact second
  | date instant => exact second
  | object same =>
      cases second with
      | object alsoSame => exact .object (same.trans alsoSame)

namespace EqualBy

variable {related other : Value → Value → Prop} {left middle right : Value}

theorem flip (equal : EqualBy related left right) :
    EqualBy (fun one another => related another one) right left := by
  cases equal with
  | single same => exact .single same.symm
  | array members => exact .array members.flip
  | map members => exact .map (members.imp fun _ _ same => ⟨same.1.symm, same.2⟩).flip

/-- Only members are compared. -/
theorem mono (equal : EqualBy related left right)
    (weaken : ∀ one another, Member one left → Member another right →
      related one another → other one another) : EqualBy other left right := by
  cases equal with
  | single same => exact .single same
  | array members =>
      exact .array ((forall₂_attach members).imp fun _ _ ⟨one, another, same⟩ =>
        weaken _ _ (.element one) (.element another) same)
  | map members =>
      exact .map ((forall₂_attach members).imp fun _ _ ⟨one, another, sameKey, same⟩ =>
        ⟨sameKey, weaken _ _ (.entry one) (.entry another) same⟩)

theorem trans (first : EqualBy related left middle) (second : EqualBy other middle right) :
    EqualBy (Relation.Comp related other) left right := by
  cases first with
  | single same =>
      cases second with
      | single alsoSame => exact .single (same.trans alsoSame)
      | array => cases same
      | map => cases same
  | array members =>
      cases second with
      | single same => cases same
      | array others => exact .array (forall₂_comp members others)
  | map members =>
      cases second with
      | single same => cases same
      | map others =>
          refine .map ((forall₂_comp members others).imp ?_)
          rintro one another ⟨between, ⟨sameKey, same⟩, alsoSameKey, alsoSame⟩
          exact ⟨sameKey.trans alsoSameKey, between.2, same, alsoSame⟩

end EqualBy

/-- The values are equal. -/
def Equal (left right : Value) : Prop := left.isEqual right = true

theorem areEqual_iff {left right : List Value} :
    areEqual left right = true ↔ List.Forall₂ Equal left right := by
  induction left generalizing right with
  | nil => cases right <;> simp [areEqual]
  | cons element rest ih => cases right <;> simp [areEqual, ih, Equal]

theorem areEqualEntries_iff {left right : List (String × Value)} :
    areEqualEntries left right = true ↔
      List.Forall₂ (fun one other => one.1 = other.1 ∧ one.2.Equal other.2) left right := by
  induction left generalizing right with
  | nil => cases right <;> simp [areEqualEntries]
  | cons entry rest ih => cases right <;> simp [areEqualEntries, ih, Equal]

/-- **Values are equal if they are of one kind and their data are.** -/
theorem isEqual_iff {left right : Value} :
    left.isEqual right = true ↔ EqualBy Equal left right := by
  constructor
  · intro equal
    cases left with
    | null => cases right with
      | null => exact .single .null
      | _ => simp [isEqual] at equal
    | any => cases right with
      | any => exact .single .any
      | _ => simp [isEqual] at equal
    | bool truth => cases right with
      | bool other => exact .single (eq_of_beq equal ▸ .bool truth)
      | _ => simp [isEqual] at equal
    | int integer => cases right with
      | int other => exact .single (eq_of_beq equal ▸ .int integer)
      | _ => simp [isEqual] at equal
    | double number => cases right with
      | double other => exact .single (.double equal)
      | _ => simp [isEqual] at equal
    | string text => cases right with
      | string other => exact .single (eq_of_beq equal ▸ .string text)
      | _ => simp [isEqual] at equal
    | date instant => cases right with
      | date other => exact .single (eq_of_beq equal ▸ .date instant)
      | _ => simp [isEqual] at equal
    | array elements => cases right with
      | array others => exact .array (areEqual_iff.mp equal)
      | _ => simp [isEqual] at equal
    | map entries => cases right with
      | map others => exact .map (areEqualEntries_iff.mp equal)
      | _ => simp [isEqual] at equal
    | object host => cases right with
      | object other => exact .single (.object (eq_of_beq equal))
      | _ => simp [isEqual] at equal
  · intro equal
    cases equal with
    | single same => cases same <;> simp_all [isEqual]
    | array members => exact areEqual_iff.mpr members
    | map members => exact areEqualEntries_iff.mpr members

/-- What goes over from equal members to collections holds of any equal values. -/
theorem Equal.induction {motive : Value → Value → Prop}
    (step : ∀ left right,
      EqualBy (fun one another => Equal one another ∧ motive one another) left right →
        motive left right)
    {left right : Value} (equal : Equal left right) : motive left right := by
  induction left using induction_members generalizing right with
  | step value ih =>
      refine step value right ((isEqual_iff.mp equal).mono ?_)
      intro one another isMember _ same
      exact ⟨same, ih one isMember same⟩

/-! ## Symmetry, transitivity and reflexivity -/

theorem Equal.symm {left right : Value} (equal : Equal left right) : Equal right left :=
  equal.induction fun _ _ members =>
    isEqual_iff.mpr (members.flip.mono fun _ _ _ _ same => same.2)

theorem Equal.trans {left middle right : Value} (first : Equal left middle)
    (second : Equal middle right) : Equal left right := by
  refine first.induction
    (motive := fun left middle => ∀ right, Equal middle right → Equal left right) ?_ right second
  intro left middle members right second
  refine isEqual_iff.mpr ((members.trans (isEqual_iff.mp second)).mono ?_)
  rintro one another - - ⟨between, ⟨-, behind⟩, same⟩
  exact behind another same

theorem SameData.self (value : Value) (notNan : value ≠ .double .nan)
    (noArray : value.array? = none) (noMap : value.map? = none) : SameData value value := by
  cases value with
  | null => exact .null
  | any => exact .any
  | bool truth => exact .bool truth
  | int integer => exact .int integer
  | double number =>
      refine .double ((Binary64.numericallyEqual_self_iff number).mpr ?_)
      rintro rfl
      exact notNan rfl
  | string text => exact .string text
  | date instant => exact .date instant
  | array => cases noArray
  | map => cases noMap
  | object host => exact .object rfl

theorem EqualBy.self_iff {related : Value → Value → Prop} {value : Value} :
    EqualBy related value value ↔
      value ≠ .double .nan ∧ ∀ member, Member member value → related member member := by
  constructor
  · intro equal
    refine ⟨?_, ?_⟩
    · rintro rfl
      cases equal with
      | single same =>
          cases same with
          | double same => cases same
    · rintro _ (isElement | isEntry)
      · cases equal with
        | single same => cases same
        | array members => exact List.forall₂_same.mp members _ isElement
      · cases equal with
        | single same => cases same
        | map members => exact (List.forall₂_same.mp members _ isEntry).2
  · rintro ⟨notNan, members⟩
    cases value with
    | array elements =>
        exact .array (List.forall₂_same.mpr fun _ isElement => members _ (.element isElement))
    | map entries =>
        exact .map (List.forall₂_same.mpr fun _ isEntry => ⟨rfl, members _ (.entry isEntry)⟩)
    | _ => exact .single (.self _ notNan rfl rfl)

/-- **A value is equal to itself exactly if not a number is not in it.** -/
theorem equal_self_iff (value : Value) : Equal value value ↔ ¬ Within (.double .nan) value := by
  induction value using induction_members with
  | step value ih =>
      rw [Equal, isEqual_iff, EqualBy.self_iff, within_iff]
      constructor
      · rintro ⟨notNan, members⟩ (isNan | ⟨member, isMember, within⟩)
        · exact notNan isNan
        · exact (ih member isMember).mp (members member isMember) within
      · intro noNan
        refine ⟨fun isNan => noNan (.inl isNan), fun member isMember => ?_⟩
        exact (ih member isMember).mpr fun within => noNan (.inr ⟨member, isMember, within⟩)

/-! ## Types, shapes and texts -/

/-- Hosts in the two values that cannot be told apart have one type name and one description. -/
def HostsAgree (left right : Value) : Prop :=
  ∀ host other : HostObject, Within (.object host) left → Within (.object other) right →
    host.identity = other.identity →
      host.typeName = other.typeName ∧ host.description = other.description

theorem HostsAgree.of_member {left right one another : Value} (agree : HostsAgree left right)
    (isOne : Member one left) (isAnother : Member another right) : HostsAgree one another :=
  fun host other withinOne withinAnother =>
    agree host other (withinOne.tail isOne) (withinAnother.tail isAnother)

/-- Arrays of the two values have one length, and maps have the same keys. -/
def SameShape (left right : Value) : Prop :=
  left.array?.map List.length = right.array?.map List.length ∧
    left.map?.map (List.map Prod.fst) = right.map?.map (List.map Prod.fst)

theorem Equal.sameShape {left right : Value} (equal : Equal left right) : SameShape left right := by
  cases isEqual_iff.mp equal with
  | single same => cases same <;> exact ⟨rfl, rfl⟩
  | array members => exact ⟨congrArg some members.length_eq, rfl⟩
  | map members =>
      refine ⟨rfl, congrArg some ?_⟩
      exact map_eq_map_iff.mpr (members.imp fun _ _ same => same.1)

theorem Equal.type_eq {left right : Value} (equal : Equal left right)
    (agree : HostsAgree left right) : left.type = right.type := by
  cases isEqual_iff.mp equal with
  | array => rfl
  | map => rfl
  | single same =>
      cases same with
      | object same => exact congrArg ValueType.object (agree _ _ .refl .refl same).1
      | _ => rfl

/-- **Equal values have one text, apart from numbers.** -/
theorem Equal.textWithin_eq {left right : Value} (equal : Equal left right)
    (agree : HostsAgree left right) (noDouble : ∀ number, ¬ Within (.double number) left)
    (collection : Bool) : left.textWithin collection = right.textWithin collection := by
  refine equal.induction (motive := fun left right => HostsAgree left right →
    (∀ number, ¬ Within (.double number) left) →
      ∀ collection, left.textWithin collection = right.textWithin collection)
    ?_ agree noDouble collection
  intro left right members agree noDouble collection
  have texts : EqualBy (fun one another => one.textWithin true = another.textWithin true)
      left right := by
    refine members.mono ?_
    rintro one another isOne isAnother ⟨-, same⟩
    exact same (agree.of_member isOne isAnother)
      (fun number within => noDouble number (within.tail isOne)) true
  cases texts with
  | single same =>
      cases same with
      | double => exact absurd .refl (noDouble _)
      | object same => exact (agree _ _ .refl .refl same).2
      | _ => rfl
  | array elements =>
      rw [textWithin, textWithin, elementTexts_eq_map, elementTexts_eq_map,
        map_eq_map_iff.mpr elements]
  | map entries =>
      have same := map_eq_map_iff.mpr (entries.imp fun one another same =>
        show Text.quoted one.1 ++ ": " ++ textWithin true one.2 =
          Text.quoted another.1 ++ ": " ++ textWithin true another.2 by rw [same.1, same.2])
      rw [← entryTexts_eq_map, ← entryTexts_eq_map] at same
      cases entries with
      | nil => rfl
      | cons => rw [textWithin, textWithin, same]

/-- **Equality is a partial equivalence.** Only values with not a number in them differ from
themselves. Equal values are of one type and shape, and have one text if there is no number in
them. -/
theorem isEqual_partialEquivalence :
    (∀ left right : Value, left.isEqual right = right.isEqual left) ∧
      (∀ left middle right : Value, left.isEqual middle = true → middle.isEqual right = true →
        left.isEqual right = true) ∧
      (∀ value : Value, value.isEqual value = true ↔ ¬ Within (.double .nan) value) ∧
      ∀ left right : Value, HostsAgree left right → left.isEqual right = true →
        left.type = right.type ∧ SameShape left right ∧
          ((∀ number, ¬ Within (.double number) left) → left.display = right.display) :=
  ⟨fun _ _ => Bool.eq_iff_iff.mpr ⟨Equal.symm, Equal.symm⟩, fun _ _ _ => Equal.trans,
    equal_self_iff, fun _ _ agree equal =>
      ⟨Equal.type_eq equal agree, Equal.sameShape equal,
        fun noDouble => Equal.textWithin_eq equal agree noDouble false⟩⟩

/-- A host object whose aliases have changed, under a key of a map in an array. -/
theorem isEqual_partialEquivalence_host :
    let within : HostObject → Value := fun host =>
      .array [.string "], [", .map [("clock", .object host), ("zero", .int 0)]]
    let host : HostObject := ⟨7, "Clock", "a clock", .ofList [("now", "time")]⟩
    let renamed : HostObject := ⟨7, "Clock", "a clock", .empty⟩
    HostsAgree (within host) (within renamed) ∧ (within host).isEqual (within renamed) = true ∧
      (∀ number, ¬ Within (.double number) (within host)) ∧
      (within renamed).isEqual (within host) = true ∧
      (within host).isEqual (within host) = true ∧
      SameShape (within host) (within renamed) ∧
      (within host).display = (within renamed).display := by
  intro within host renamed
  have parts : ∀ (part : Value) (inner : HostObject), Within part (within inner) →
      (∀ number, part ≠ .double number) ∧ ∀ other, part = .object other → other = inner := by
    intro part inner isWithin
    simp only [within, within_array_iff, within_map_iff, List.mem_cons, List.not_mem_nil, or_false,
      exists_eq_or_imp, exists_eq_left, @within_single_iff part (.string "], [") rfl rfl,
      @within_single_iff part (.object inner) rfl rfl,
      @within_single_iff part (.int 0) rfl rfl] at isWithin
    rcases isWithin with rfl | rfl | rfl | rfl | rfl <;> simp
  have noDouble : ∀ number, ¬ Within (.double number) (within host) :=
    fun number isWithin => (parts _ _ isWithin).1 number rfl
  have agree : HostsAgree (within host) (within renamed) := by
    intro one another isOne isAnother _
    rw [(parts _ _ isOne).2 one rfl, (parts _ _ isAnother).2 another rfl]
    exact ⟨rfl, rfl⟩
  have equal : (within host).isEqual (within renamed) = true := by
    simp [within, isEqual, areEqual, areEqualEntries, host, renamed]
  obtain ⟨comm, trans, self, same⟩ := isEqual_partialEquivalence
  obtain ⟨-, shape, text⟩ := same _ _ agree equal
  exact ⟨agree, equal, noDouble, (comm _ _).symm.trans equal,
    trans _ _ _ equal ((comm _ _).symm.trans equal), shape, text noDouble⟩

end Value

end MessageExpr
