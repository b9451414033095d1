import MessageExpr.CommandLine.Response
import MessageExpr.Proofs.Dictionary
import MessageExpr.Proofs.Registry
import MessageExpr.Proofs.Value.Literal
import Mathlib.Data.List.Forall2

/-!
# Configured objects

The texts of configured objects are read in ascending order of the names. Either all of them are
literals, or the first one that is none is reported (`literals_cases`). The literals are written over
the standard registry, so the standard names keep their places and the others follow in ascending
order (`names_ofList`).

A configured name means its literal, even if the name could itself be read as one. Only the two
constructors keep their meaning (`registry_of_objects`).
-/

set_option autoImplicit false

namespace MessageExpr

namespace Configuration

/-! ## Reading the objects -/

/-- The texts of the entries are literals with these values. -/
def AreRead (entries : List (String × String)) (values : List (String × Value)) : Prop :=
  List.Forall₂ (fun entry value => entry.1 = value.1 ∧ Literal.read? entry.2 = some value.2)
    entries values

/-- The entry is the first one whose text is no literal. -/
def IsFirstMalformed (entries : List (String × String)) (entry : String × String) : Prop :=
  ∃ before after, entries = before ++ entry :: after ∧ Literal.read? entry.2 = none ∧
    ∀ earlier ∈ before, ∃ value, Literal.read? earlier.2 = some value

/-- **All texts are read, or the first malformed one is reported.** -/
theorem literals_cases (entries : List (String × String)) :
    (∃ values, AreRead entries values ∧ literals entries = .ok values) ∨
      ∃ entry, IsFirstMalformed entries entry ∧ literals entries = .error entry := by
  induction entries with
  | nil => exact .inl ⟨[], .nil, rfl⟩
  | cons entry rest ih =>
      cases read : Literal.read? entry.2 with
      | none => exact .inr ⟨entry, ⟨[], rest, rfl, read, by simp⟩, by simp [literals, read]⟩
      | some value =>
          rcases ih with ⟨values, areRead, readRest⟩ | ⟨other, ⟨before, after, rfl, form⟩, readRest⟩
          · refine .inl ⟨(entry.1, value) :: values, .cons ⟨rfl, read⟩ areRead, ?_⟩
            simp [literals, read, readRest, Except.map]
          · refine .inr ⟨other, ⟨entry :: before, after, rfl, form.1, ?_⟩, ?_⟩
            · exact List.forall_mem_cons.mpr ⟨⟨value, read⟩, form.2⟩
            · simp [literals, read, readRest, Except.map]

namespace AreRead

variable {entries : List (String × String)} {values : List (String × Value)}

theorem names_eq (areRead : AreRead entries values) :
    values.map Prod.fst = entries.map Prod.fst := by
  induction areRead with
  | nil => rfl
  | cons here _ ih => rw [List.map_cons, List.map_cons, ih, here.1]

theorem lookup_eq (areRead : AreRead entries values) (name : String) :
    values.lookup name = (entries.lookup name).bind Literal.read? := by
  induction areRead with
  | nil => rfl
  | cons here _ ih =>
      rw [Dictionary.lookup_cons_entry, Dictionary.lookup_cons_entry, ih, here.1]
      split
      · exact here.2.symm
      · rfl

theorem read_of_mem (areRead : AreRead entries values) {entry : String × String}
    (member : entry ∈ entries) : ∃ value, Literal.read? entry.2 = some value := by
  induction areRead with
  | nil => cases member
  | cons here _ ih =>
      rcases List.mem_cons.mp member with rfl | inRest
      · exact ⟨_, here.2⟩
      · exact ih inRest

end AreRead

/-- The first malformed entry comes before all other malformed entries in the order of the names. -/
theorem IsFirstMalformed.least {objects : Dictionary String} {entry : String × String}
    (first : IsFirstMalformed objects.entries entry) :
    objects.get? entry.1 = some entry.2 ∧ Literal.read? entry.2 = none ∧
      ∀ name text, objects.get? name = some text → Literal.read? text = none → entry.1 ≤ name := by
  obtain ⟨before, after, entries, malformed, readBefore⟩ := first
  refine ⟨?_, malformed, fun name text configured alsoMalformed => ?_⟩
  · rw [Dictionary.get?_eq_some_iff, entries]
    exact List.mem_append_right before List.mem_cons_self
  · have ascending := objects.ascending
    rw [entries] at ascending
    rw [Dictionary.get?_eq_some_iff, entries, List.mem_append, List.mem_cons] at configured
    rcases configured with isBefore | rfl | isAfter
    · obtain ⟨value, read⟩ := readBefore _ isBefore
      cases read.symm.trans alsoMalformed
    · exact String.le_refl _
    · have above := List.rel_of_pairwise_cons (List.pairwise_append.mp ascending).2.1 isAfter
      exact String.not_lt.mp (String.lt_asymm above)

end Configuration

/-! ## Objects over the standard registry -/

namespace Registry

theorem names_ofList {entries : List (String × Value)} (distinct : (entries.map Prod.fst).Nodup)
    (now : Instant) :
    (ofList now entries).names = (standard now).names ++
      (entries.map Prod.fst).filter (fun name => decide (name ∉ (standard now).names)) := by
  have others : ((entries.map Prod.fst).removeAll (standard now).names) =
      (entries.map Prod.fst).filter (fun name => decide (name ∉ (standard now).names)) := by
    rw [List.removeAll]
    exact List.filter_congr fun name _ => by simp
  have standardDistinct : (standard now).names.Nodup := (standard now).distinct
  rw [ofList, names_insertAll, List.eraseDups_append, eraseDups_of_nodup standardDistinct, others,
    eraseDups_of_nodup (distinct.filter _)]

theorem get?_ofList {entries : List (String × Value)} (distinct : (entries.map Prod.fst).Nodup)
    (now : Instant) (name : String) :
    (ofList now entries).get? name = (entries.lookup name).or ((standard now).get? name) := by
  rw [ofList, get?_insertAll]
  exact congrArg (Option.or · _) (lookup_reverse_entries ⟨entries, distinct⟩ name)

end Registry

namespace CommandLine

variable {configuration : Configuration} {now : Instant}

section Read

variable {values : List (String × Value)}
  (areRead : Configuration.AreRead configuration.objects.entries values)
include areRead

theorem nodup_names_of_areRead : (values.map Prod.fst).Nodup := by
  rw [areRead.names_eq]
  exact configuration.objects.nodup_keys

theorem get?_ofList_of_areRead (now : Instant) (name : String) :
    (Registry.ofList now values).get? name =
      ((configuration.objects.get? name).bind Literal.read?).or
        ((Registry.standard now).get? name) := by
  rw [Registry.get?_ofList (nodup_names_of_areRead areRead), areRead.lookup_eq]
  rfl

/-- The names that are not standard follow in ascending order. -/
theorem names_ofList_of_areRead (now : Instant) :
    ∃ further, (Registry.ofList now values).names = (Registry.standard now).names ++ further ∧
      further.Pairwise (· < ·) ∧
      ∀ name, name ∈ further ↔ (∃ text, configuration.objects.get? name = some text) ∧
        name ∉ (Registry.standard now).names := by
  refine ⟨_, Registry.names_ofList (nodup_names_of_areRead areRead) now, ?_, fun name => ?_⟩
  · rw [areRead.names_eq]
    exact (List.pairwise_map.mpr configuration.objects.ascending).filter _
  · rw [List.mem_filter, areRead.names_eq, decide_eq_true_iff, List.mem_map]
    refine and_congr_left fun _ => ⟨?_, ?_⟩
    · rintro ⟨entry, member, rfl⟩
      exact ⟨entry.2, Dictionary.get?_eq_some_iff.mpr member⟩
    · rintro ⟨text, isText⟩
      exact ⟨(name, text), Dictionary.get?_eq_some_iff.mp isText, rfl⟩

/-- A configured name means the literal of its text. -/
theorem resolve_of_areRead {name text : String}
    (isText : configuration.objects.get? name = some text) (now : Instant) {World : Type}
    (context : Context World) :
    ∃ value, Literal.read? text = some value ∧
      (Registry.ofList now values).get? name = some value ∧
      (name ≠ "Date" → name ≠ "String" →
        resolve context (Registry.ofList now values) name = .returning value) := by
  obtain ⟨value, read⟩ := areRead.read_of_mem (Dictionary.get?_eq_some_iff.mp isText)
  have found : (Registry.ofList now values).get? name = some value := by
    rw [get?_ofList_of_areRead areRead, isText, Option.bind_some, read, Option.some_or]
  refine ⟨value, read, found, fun notDate notString => ?_⟩
  rw [resolve, if_neg notDate, if_neg notString, found]

end Read

/-- **There are all configured objects, or the first malformed one is reported.** -/
theorem registry_cases (now : Instant) (configuration : Configuration) :
    (∃ values, Configuration.AreRead configuration.objects.entries values ∧
        registry now configuration = .ok (.ofList now values)) ∨
      ∃ entry, Configuration.IsFirstMalformed configuration.objects.entries entry ∧
        registry now configuration = .error (.configuration (notLiteral entry)) := by
  rcases Configuration.literals_cases configuration.objects.entries with
    ⟨values, areRead, read⟩ | ⟨entry, first, failed⟩
  · exact .inl ⟨values, areRead, by
      simp [registry, Configuration.registry, read, Except.map, Except.mapError]⟩
  · exact .inr ⟨entry, first, by
      simp [registry, Configuration.registry, failed, Except.map, Except.mapError]⟩

/-- There is no registry exactly if some text is no literal, and the least name of such a text is
reported. -/
theorem registry_eq_error_iff {failure : CommandFailure} :
    registry now configuration = .error failure ↔
      ∃ name text, configuration.objects.get? name = some text ∧ Literal.read? text = none ∧
        (∀ other text, configuration.objects.get? other = some text →
          Literal.read? text = none → name ≤ other) ∧
        failure = .configuration (notLiteral (name, text)) := by
  rcases registry_cases now configuration with ⟨values, areRead, isOk⟩ | ⟨entry, first, failed⟩
  · rw [isOk]
    constructor
    · rintro ⟨⟩
    · rintro ⟨name, text, isText, malformed, -⟩
      obtain ⟨value, read⟩ := areRead.read_of_mem (Dictionary.get?_eq_some_iff.mp isText)
      cases read.symm.trans malformed
  · obtain ⟨isText, malformed, least⟩ := first.least
    rw [failed]
    constructor
    · rintro ⟨⟩
      exact ⟨entry.1, entry.2, isText, malformed, least, rfl⟩
    · rintro ⟨name, text, isOther, otherMalformed, otherLeast, rfl⟩
      obtain rfl : entry.1 = name := String.le_antisymm (least name text isOther otherMalformed)
        (otherLeast _ _ isText malformed)
      obtain rfl : entry.2 = text := Option.some.inj (isText.symm.trans isOther)
      rfl

theorem registry_eq_ok
    (literal : ∀ entry ∈ configuration.objects.entries, ∃ value, Literal.read? entry.2 = some value)
    (now : Instant) : ∃ objects, registry now configuration = .ok objects := by
  rcases registry_cases now configuration with ⟨values, -, isOk⟩ | ⟨entry, first, -⟩
  · exact ⟨_, isOk⟩
  · obtain ⟨isText, malformed, -⟩ := first.least
    obtain ⟨value, read⟩ := literal entry (Dictionary.get?_eq_some_iff.mp isText)
    cases read.symm.trans malformed

/-- **The configured objects are all there as their literals, or none is.** There is no registry
exactly if some text is no literal, and then the first such name is reported. Otherwise the standard
names keep their places and the other ones follow in ascending order. Each configured name means its
literal, whatever it could itself be read as; only the two constructors stay what they are. -/
theorem registry_of_objects (now : Instant) (configuration : Configuration) :
    ((∃ failure, registry now configuration = .error failure) ↔
        ∃ name text, configuration.objects.get? name = some text ∧ Literal.read? text = none) ∧
      (∀ failure, registry now configuration = .error failure ↔
        ∃ name text, configuration.objects.get? name = some text ∧ Literal.read? text = none ∧
          (∀ other text, configuration.objects.get? other = some text →
            Literal.read? text = none → name ≤ other) ∧
          failure = .configuration (notLiteral (name, text))) ∧
      ∀ objects, registry now configuration = .ok objects →
        (∃ further,
          objects.names = ["Bool", "Date", "Int", "Double", "String"] ++ further ∧
            further.Pairwise (· < ·) ∧
            ∀ name, name ∈ further ↔ (∃ text, configuration.objects.get? name = some text) ∧
              name ∉ ["Bool", "Date", "Int", "Double", "String"]) ∧
        (∀ name, configuration.objects.get? name = none →
          objects.get? name = (Registry.standard now).get? name) ∧
        ∀ {World : Type} (context : Context World),
          (∀ name text, configuration.objects.get? name = some text →
            ∃ value, Literal.read? text = some value ∧ objects.get? name = some value ∧
              (name ≠ "Date" → name ≠ "String" →
                resolve context objects name = .returning value)) ∧
          resolve context objects "Date" =
            (Run.ofState context.clock).andThen (fun instant => .returning (.date instant)) ∧
          resolve context objects "String" = .returning (.string "") := by
  refine ⟨?fails, fun _ => registry_eq_error_iff, ?succeeds⟩
  case fails =>
    constructor
    · rintro ⟨failure, failed⟩
      obtain ⟨name, text, isText, malformed, -⟩ := registry_eq_error_iff.mp failed
      exact ⟨name, text, isText, malformed⟩
    · rintro ⟨name, text, isText, malformed⟩
      rcases registry_cases now configuration with ⟨values, areRead, -⟩ | ⟨entry, -, failed⟩
      · obtain ⟨value, read⟩ := areRead.read_of_mem (Dictionary.get?_eq_some_iff.mp isText)
        cases read.symm.trans malformed
      · exact ⟨_, failed⟩
  case succeeds =>
    intro objects isOk
    rcases registry_cases now configuration with ⟨values, areRead, same⟩ | ⟨entry, -, failed⟩
    · obtain rfl : Registry.ofList now values = objects := Except.ok.inj (same.symm.trans isOk)
      refine ⟨names_ofList_of_areRead areRead now, fun name absent => ?_, fun context => ?_⟩
      · rw [get?_ofList_of_areRead areRead, absent, Option.bind_none, Option.none_or]
      · exact ⟨fun name text isText => resolve_of_areRead areRead isText now context, rfl, rfl⟩
    · cases failed.symm.trans isOk

/-- Names that could be read as a number and as a quoted text, and a standard name. -/
theorem registry_of_objects_named_like_literals :
    let configuration := { Configuration.standard with
      objects := .ofList [("12", "\"dozen\""), ("\"a\"", "\"b\""), ("Int", "\"whole\"")] }
    ∃ objects, registry default configuration = .ok objects ∧
      resolve (context default configuration) objects "12" = .returning (.string "dozen") ∧
      resolve (context default configuration) objects "\"a\"" = .returning (.string "b") ∧
      resolve (context default configuration) objects "Int" = .returning (.string "whole") := by
  intro configuration
  have quoted : ∀ text content, "\"" ++ content ++ "\"" = text →
      Literal.read? text = some (.string content) :=
    fun text content same => Literal.read?_eq_string_iff.mpr same.symm
  have literal : ∀ entry ∈ configuration.objects.entries,
      ∃ value, Literal.read? entry.2 = some value := by
    intro entry member
    refine Dictionary.property_of_get?_ofList
      (fun _ text => ∃ value, Literal.read? text = some value) ?_
      (Dictionary.get?_eq_some_iff.mpr member)
    simp only [List.forall_mem_cons, List.not_mem_nil, false_implies, implies_true, and_true]
    exact ⟨⟨_, quoted _ "dozen" (by decide)⟩, ⟨_, quoted _ "b" (by decide)⟩,
      ⟨_, quoted _ "whole" (by decide)⟩⟩
  obtain ⟨objects, configured⟩ := registry_eq_ok literal default
  obtain ⟨-, -, succeeds⟩ := registry_of_objects default configuration
  obtain ⟨-, -, means⟩ := succeeds objects configured
  obtain ⟨resolves, -⟩ := means (context default configuration)
  have means : ∀ name text content, configuration.objects.get? name = some text →
      "\"" ++ content ++ "\"" = text → name ≠ "Date" → name ≠ "String" →
        resolve (context default configuration) objects name = .returning (.string content) := by
    intro name text content isText same notDate notString
    obtain ⟨value, read, -, resolved⟩ := resolves name text isText
    rw [quoted text content same] at read
    rw [resolved notDate notString, Option.some.inj read]
  exact ⟨objects, configured,
    means "12" "\"dozen\"" "dozen" (by decide) (by decide) (by decide) (by decide),
    means "\"a\"" "\"b\"" "b" (by decide) (by decide) (by decide) (by decide),
    means "Int" "\"whole\"" "whole" (by decide) (by decide) (by decide) (by decide)⟩

end CommandLine

end MessageExpr
