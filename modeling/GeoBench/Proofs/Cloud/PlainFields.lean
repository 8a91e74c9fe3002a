import GeoBench.Cloud.Profile
import GeoBench.Proofs.Yaml.FlatMappings
import GeoBench.Proofs.Yaml.PlainMeaning

/-!
# Fields of a profile without quotes

A field that is written without quotes is read as a value and its text is written anew, so it is the
text between quotes only if that is how the value is written anew: `0x1F` names the project `31`.

## Which texts survive

A text without quotes survives if it is written as the printer of numbers would write it, or is no
number at all: `42` and `ab` do, `0x1F` and `1e3` do not. Truth values survive in lower case, and a
text that means nothing is no project at all. `Survives` lists the kinds, and `parse_unquoted` shows
that the list is exact.

## Why whole files

What is said of one field is said of the profile of a file, with any other fields around it, since a
profile is read from a file and not field by field. The file is given by its fields and the quotes
they are written in, so that two files that differ in the quotes of one field can be compared.

## Main results

* `parse_renderLines` — the profile that a file of named scalars holds.
* `Survives` — the texts that a field has with and without quotes.
* `parse_unquoted` — what becomes of a field when its quotes are taken away.
-/

namespace GeoBench.Cloud

open GeoBench.Yaml GeoBench.Number
open scoped GeoBench.Text.Characters

/-- A **field** of a profile. -/
inductive Field where
  | project
  | user
  deriving DecidableEq, Repr

namespace Field

/-- The name of a field. -/
def name : Field → String
  | project => Profile.projectField
  | user => Profile.userField

/-- The names of the fields are keys of a data file. -/
theorem name_spec (f : Field) : (∀ c ∈ f.name.toList, isNameChar c) ∧
    (∃ c cs, f.name.toList = c :: cs ∧ c ≠ '-') ∧ f.name.length ≤ Lexer.longestKey := by
  cases f with
  | project => exact ⟨by decide, ⟨'p', "roject_id".toList, by decide, by decide⟩, by decide⟩
  | user => exact ⟨by decide, ⟨'u', "sername".toList, by decide, by decide⟩, by decide⟩

/-- The field of a name. -/
def named? (name : String) : Option Field :=
  if name = Profile.projectField then some .project
  else if name = Profile.userField then some .user
  else none

/-- Each field is found by its own name. -/
@[simp] theorem named?_name (f : Field) : named? f.name = some f := by
  cases f <;> rfl

/-- The text of a field in a profile. -/
def textIn (p : Profile) : Field → String
  | project => p.projectId
  | user => p.username

/-- A profile with another text for a field. -/
def withText (f : Field) (text : String) (p : Profile) : Profile :=
  match f with
  | project => { p with projectId := text }
  | user => { p with username := text }

/-- A profile stays the same exactly if the text does. -/
theorem withText_eq_iff {f : Field} {text : String} {p : Profile} :
    f.withText text p = p ↔ text = f.textIn p := by
  obtain ⟨projectId, username⟩ := p
  cases f <;> simp [withText, textIn]

end Field

namespace Profile

/-! ### The fields of a file -/

namespace Fields

/-- The value of a field, if it was found. -/
def get? (found : Fields) : Field → Option Value
  | .project => found.project?
  | .user => found.user?

/-- The fields with a value for one of them. -/
def put (found : Fields) (f : Field) (v : Value) : Fields :=
  match f with
  | .project => { found with project? := some v }
  | .user => { found with user? := some v }

variable {found : Fields} {f g : Field} {v w : Value}

/-- The field that was put is the one that is got. -/
@[simp] theorem get?_put_self : (found.put f v).get? f = some v := by
  cases f <;> rfl

/-- Putting a field leaves the other ones as they are. -/
theorem get?_put_of_ne (h : g ≠ f) : (found.put f v).get? g = found.get? g := by
  cases f <;> cases g <;> first | rfl | exact absurd rfl h

/-- Of two values for one field the later one counts. -/
@[simp] theorem put_put_self : (found.put f v).put f w = found.put f w := by
  cases f <;> rfl

/-- Different fields may be put in either order. -/
theorem put_comm (h : g ≠ f) : (found.put f v).put g w = (found.put g w).put f v := by
  cases f <;> cases g <;> first | rfl | exact absurd rfl h

end Fields

/-- The fields of some lines, behind the ones found before. -/
def fieldsIn : List NamedScalar → Fields → Except Yaml.Fault Fields
  | [], found => .ok found
  | n :: ns, found =>
    match Field.named? n.name with
    | none => fieldsIn ns found
    | some f =>
      if (found.get? f).isSome then .error .duplicateKey
      else do fieldsIn ns (found.put f (← n.scalar.value))

/-- One scalar is passed over. -/
theorem skipFrom_of_scalar {d : Document} {at_ : Nat} {tag? : Option String} {text : String}
    {style : ScalarStyle} (h : d.piece at_ = .ok (.scalar tag? text style)) (fuel : Nat) :
    skipFrom d (fuel + 1) 0 at_ = .ok (at_ + 1) := by
  rw [skipFrom, h]
  rfl

/-- **The fields of a document** whose pieces are those of lines. The induction is on the lines. -/
theorem fieldsFrom_lines {d : Document} {fuel at_ jumps : Nat} {found : Fields}
    {ns : List NamedScalar}
    (hpieces : d.pieces.toList.drop at_ = ns.flatMap NamedScalar.pieces ++ [.mappingEnd])
    (hfuel : ns.length < fuel) : fieldsFrom d fuel at_ jumps found = fieldsIn ns found := by
  obtain ⟨fuel, rfl⟩ := Nat.exists_eq_add_one_of_ne_zero (Nat.ne_zero_of_lt hfuel)
  induction ns generalizing fuel at_ found with
  | nil =>
      obtain ⟨hend, -⟩ := Document.piece_of_drop hpieces
      rw [fieldsFrom, hend]
      rfl
  | cons n ns ih =>
      have hless : ns.length < fuel := Nat.lt_of_succ_lt_succ hfuel
      obtain ⟨fuel, rfl⟩ := Nat.exists_eq_add_one_of_ne_zero (Nat.ne_zero_of_lt hless)
      obtain ⟨k, hk⟩ : ∃ k, d.fuel = k + 1 :=
        Nat.exists_eq_add_one_of_ne_zero (Nat.mul_ne_zero (Nat.succ_ne_zero _) (by decide))
      rw [List.flatMap_cons, NamedScalar.pieces, List.append_assoc] at hpieces
      obtain ⟨hname, hbehind⟩ := Document.piece_of_drop hpieces
      obtain ⟨hscalar, hrest⟩ := Document.piece_of_drop hbehind
      have hread : fieldName d at_ jumps = .ok (n.name, jumps) := by
        rw [fieldName, hname]
        rfl
      have hvalue := Document.value_of_scalar hscalar k (Document.depthLimit - 1) jumps
      have hskip := skipFrom_of_scalar hscalar d.pieces.size
      have hlater := fun later => @ih _ later hrest fuel hless
      rw [fieldsFrom, hname, fieldsIn, Field.named?]
      simp only [bind, Except.bind, hread, hk, hvalue, hskip, reduceCtorEq, if_false]
      by_cases hproject : n.name = projectField
      · simp only [hproject, if_true]
        cases n.scalar.value with
        | error fault => rfl
        | ok v => simp only [Except.map, hlater]; rfl
      · simp only [if_neg hproject]
        by_cases huser : n.name = userField
        · simp only [huser, if_true]
          cases n.scalar.value with
          | error fault => rfl
          | ok v => simp only [Except.map, hlater]; rfl
        · simp only [if_neg huser, hlater]

/-! ### The profile of a file -/

/-- The value of a field, which has to be there. -/
def present (found : Fields) (f : Field) : Except ProfileFault Value :=
  match found.get? f with
  | some v => .ok v
  | none => .error (.missing f.name)

/-- The text of the value of a field. -/
def scalarText (f : Field) (v : Value) : Except ProfileFault String :=
  match fieldText? v with
  | some s => .ok s
  | none => .error (.notScalar f.name)

/-- The profile of some fields. -/
def ofFields (found : Fields) : Except ProfileFault Profile := do
  let project ← present found .project
  let user ← present found .user
  return { projectId := ← scalarText .project project, username := ← scalarText .user user }

/-- **The profile that a file of named scalars holds.** -/
theorem parse_renderLines {ns : List NamedScalar} (hne : ns ≠ []) (hfits : ∀ n ∈ ns, n.Fits) :
    parse (renderLines ns) = (fieldsIn ns {}).mapError .malformed >>= ofFields := by
  obtain ⟨hstart, hlines, hsize⟩ := Document.fileDocument_spec ns
  have hfields : fieldsOf (fileDocument ns) = fieldsIn ns {} := by
    rw [fieldsOf, hstart]
    exact fieldsFrom_lines hlines (hsize.trans (Nat.lt_succ_self _))
  have hclosing : (fileDocument ns).closing = .ok () := rfl
  rw [parse, Document.ofText_renderLines hne hfits, hfields, hclosing]
  cases fieldsIn ns {} with
  | error fault => rfl
  | ok found =>
      obtain ⟨project?, user?⟩ := found
      cases project? <;> cases user? <;> rfl

/-! ### One field with another value -/

section

variable {ns : List NamedScalar} {found result : Fields} {f : Field} {v w : Value} {s t : String}

/-- Lines are read one after another. -/
theorem fieldsIn_append (before after : List NamedScalar) :
    fieldsIn (before ++ after) found = fieldsIn before found >>= fieldsIn after := by
  induction before generalizing found with
  | nil => rfl
  | cons n before ih =>
      rw [List.cons_append, fieldsIn, fieldsIn]
      cases Field.named? n.name with
      | none => exact ih
      | some g =>
          dsimp only
          split
          next => rfl
          next =>
            cases n.scalar.value with
            | error fault => rfl
            | ok u => exact ih

/-- The line of a field is refused if the field was found before. -/
theorem fieldsIn_field (f : Field) (scalar : WrittenScalar) :
    fieldsIn (⟨f.name, scalar⟩ :: ns) found =
      if (found.get? f).isSome then .error .duplicateKey
      else scalar.value >>= fun v => fieldsIn ns (found.put f v) := by
  rw [fieldsIn, Field.named?_name]

/-- A field that was found keeps its value, and it makes no difference for the other ones. The
induction is on the lines: none of them can be of this field. -/
theorem fieldsIn_put (hget : found.get? f = some w) :
    fieldsIn ns (found.put f v) = (fieldsIn ns found).map (·.put f v) ∧
      ∀ result, fieldsIn ns found = .ok result → result.get? f = some w := by
  induction ns generalizing found with
  | nil =>
      refine ⟨rfl, fun result hresult => ?_⟩
      cases hresult
      exact hget
  | cons n ns ih =>
      rw [fieldsIn, fieldsIn]
      cases Field.named? n.name with
      | none => exact ih hget
      | some g =>
          by_cases hg : g = f
          · subst hg
            simp [hget, Except.map]
          · dsimp only
            rw [Fields.get?_put_of_ne hg]
            split
            next => exact ⟨rfl, fun _ hok => by cases hok⟩
            next =>
              cases n.scalar.value with
              | error fault => exact ⟨rfl, fun _ hok => by cases hok⟩
              | ok u =>
                  have hstep := @ih (found.put g u) (by rwa [Fields.get?_put_of_ne (Ne.symm hg)])
                  rw [← Fields.put_comm hg] at hstep
                  exact hstep

/-- **A field without quotes** has the value of its plain scalar, and everything else stays. -/
theorem fieldsIn_unquoted (before after : List NamedScalar) (single : Bool)
    (hvalue : Value.ofPlain s = .ok v) :
    fieldsIn (before ++ ⟨f.name, .plain s⟩ :: after) found =
        (fieldsIn (before ++ ⟨f.name, .quoted single s⟩ :: after) found).map (·.put f v) ∧
      ∀ result, fieldsIn (before ++ ⟨f.name, .quoted single s⟩ :: after) found = .ok result →
        result.get? f = some (.string s) := by
  rw [fieldsIn_append, fieldsIn_append]
  cases fieldsIn before found with
  | error fault => exact ⟨rfl, fun _ hok => by cases hok⟩
  | ok found =>
      simp only [bind, Except.bind, fieldsIn_field, WrittenScalar.value, hvalue]
      split
      next => exact ⟨rfl, fun _ hok => by cases hok⟩
      next =>
        have hput := @fieldsIn_put after (found.put f (.string s)) f v _ Fields.get?_put_self
        rwa [Fields.put_put_self] at hput

/-- The profile of fields, one of which has another text. -/
theorem ofFields_put (hget : found.get? f = some (.string s)) (htext : fieldText? v = some t) :
    ofFields (found.put f v) = (ofFields found).map (f.withText t) ∧
      ∀ p, ofFields found = .ok p → f.textIn p = s := by
  obtain ⟨project?, user?⟩ := found
  cases f with
  | project =>
      obtain rfl : project? = some (.string s) := hget
      cases user? with
      | none => exact ⟨rfl, fun _ hok => by cases hok⟩
      | some user =>
          simp only [ofFields, present, Fields.get?, Fields.put, scalarText, htext,
            fieldText?_string, bind, Except.bind]
          cases fieldText? user with
          | none => exact ⟨rfl, fun _ hok => by cases hok⟩
          | some name => exact ⟨rfl, fun _ hp => Except.ok.inj hp ▸ rfl⟩
  | user =>
      obtain rfl : user? = some (.string s) := hget
      cases project? with
      | none => exact ⟨rfl, fun _ hok => by cases hok⟩
      | some project =>
          simp only [ofFields, present, Fields.get?, Fields.put, scalarText, htext,
            fieldText?_string, bind, Except.bind]
          cases fieldText? project with
          | none => exact ⟨rfl, fun _ hok => by cases hok⟩
          | some name => exact ⟨rfl, fun _ hp => Except.ok.inj hp ▸ rfl⟩

end

/-! ### Texts that survive -/

/-- The texts that **survive** without quotes, character for character: those that mean themselves,
the two truth values in lower case, the whole numbers of 64 bits in digits without a superfluous
zero, a plus sign or the mark of a base, and other numbers as they are written anew. -/
inductive Survives : String → Prop
  | text {s : String} (h : Value.ofPlain s = .ok (.string s)) : Survives s
  | truth (b : Bool) : Survives (if b then "true" else "false")
  | whole {n : Int} (hlow : -(twoTo 63 : Int) ≤ n) (hhigh : n < twoTo 64) : Survives (toString n)
  | fraction {x : Binary64}
      (h : Value.ofPlain (Value.numberText (.float x)) = .ok (.number (.float x))) :
      Survives (Value.numberText (.float x))

/-- A text survives exactly if it is the text of its own value. -/
theorem survives_iff {s t : String} {v : Value} (hvalue : Value.ofPlain s = .ok v)
    (htext : fieldText? v = some t) : Survives s ↔ t = s := by
  have hself : ∀ w, Value.ofPlain s = .ok w → fieldText? w = some s → t = s := by
    intro w hw hws
    obtain rfl := Except.ok.inj (hvalue.symm.trans hw)
    exact Option.some.inj (htext.symm.trans hws)
  constructor
  · intro h
    cases h with
    | text h => exact hself _ h rfl
    | truth b => exact hself (.bool b) (by cases b <;> rfl) rfl
    | whole hlow hhigh => exact hself _ (Value.ofPlain_toString hlow hhigh) rfl
    | fraction h => exact hself _ h rfl
  · rintro rfl
    rcases Value.ofPlain_cases hvalue with rfl | ⟨b, rfl⟩ | ⟨n, rfl, hlow, hhigh⟩ | ⟨x, rfl⟩ | rfl
    · cases htext
    · obtain rfl := Option.some.inj htext
      exact .truth b
    · obtain rfl := Option.some.inj htext
      exact .whole hlow hhigh
    · obtain rfl := Option.some.inj htext
      exact .fraction hvalue
    · exact .text hvalue

/-! ### A field without its quotes -/

/-- The line of a field fits if its scalar does. -/
theorem fits_field (f : Field) {scalar : WrittenScalar} (h : scalar.Fits) :
    NamedScalar.Fits ⟨f.name, scalar⟩ := by
  obtain ⟨hname, hfirst, hshort⟩ := f.name_spec
  exact ⟨hname, hfirst, hshort, h⟩

/-- The text of a file with a field between other lines. -/
def fileWith (before after : List NamedScalar) (f : Field) (scalar : WrittenScalar) : String :=
  renderLines (before ++ ⟨f.name, scalar⟩ :: after)

/-- The profile of a file with a field between other lines. -/
theorem parse_fileWith {before after : List NamedScalar} (hlines : ∀ n ∈ before ++ after, n.Fits)
    (f : Field) {scalar : WrittenScalar} (h : scalar.Fits) :
    parse (fileWith before after f scalar) =
      (fieldsIn (before ++ ⟨f.name, scalar⟩ :: after) {}).mapError .malformed >>= ofFields := by
  refine parse_renderLines (by simp) fun n hn => ?_
  rw [List.mem_append, List.mem_cons, or_left_comm, ← List.mem_append] at hn
  rcases hn with rfl | hn
  · exact fits_field f h
  · exact hlines n hn

/-- **What becomes of a field when its quotes are taken away.** Where the plain scalar means a text,
a number or a truth value, the profile is the one with the quotes, except that the field has the
text of that value; it is the same profile exactly if the text of the field survives. -/
theorem parse_unquoted {before after : List NamedScalar} {f : Field} {s t : String} {v : Value}
    (hlines : ∀ n ∈ before ++ after, n.Fits) (hs : IsPlainLine s.toList)
    (hvalue : Value.ofPlain s = .ok v) (htext : fieldText? v = some t) (single : Bool) :
    parse (fileWith before after f (.plain s)) =
        (parse (fileWith before after f (.quoted single s))).map (f.withText t) ∧
      ∀ p, parse (fileWith before after f (.quoted single s)) = .ok p →
        f.textIn p = s ∧ (parse (fileWith before after f (.plain s)) = .ok p ↔ Survives s) := by
  have hplain : (WrittenScalar.plain s).Fits := hs
  obtain ⟨hfields, hget⟩ := @fieldsIn_unquoted {} f v s before after single hvalue
  have hparse : parse (fileWith before after f (.plain s)) =
      (parse (fileWith before after f (.quoted single s))).map (f.withText t) ∧
      ∀ p, parse (fileWith before after f (.quoted single s)) = .ok p → f.textIn p = s := by
    rw [parse_fileWith hlines f hplain, parse_fileWith hlines f (hplain.quoted single), hfields]
    cases hquoted : fieldsIn (before ++ ⟨f.name, .quoted single s⟩ :: after) {} with
    | error fault => exact ⟨rfl, fun _ hok => by cases hok⟩
    | ok found => exact ofFields_put (hget found hquoted) htext
  refine ⟨hparse.1, fun p hp => ?_⟩
  have htextIn := hparse.2 p hp
  refine ⟨htextIn, ?_⟩
  rw [hparse.1, hp, survives_iff hvalue htext, ← htextIn, ← Field.withText_eq_iff]
  simp only [Except.map, Except.ok.injEq]

/-- A project that is named `0x1F` is the project `31` without quotes, so its name does not
survive. -/
theorem parse_unquoted_hexadecimal :
    parse (fileWith [] [⟨"username", .plain "bench"⟩] .project (.quoted true "0x1F")) =
        .ok ⟨"0x1F", "bench"⟩ ∧
      parse (fileWith [] [⟨"username", .plain "bench"⟩] .project (.plain "0x1F")) =
        .ok ⟨"31", "bench"⟩ ∧
      ¬ Survives "0x1F" := by
  have hlines : ∀ n ∈ [] ++ [⟨"username", .plain "bench"⟩], NamedScalar.Fits n := by
    rw [List.nil_append, List.forall_mem_singleton]
    exact fits_field .user (show IsPlainLine "bench".toList by decide)
  have hvalue : Value.ofPlain "0x1F" = .ok (.number (.whole 31)) := rfl
  have hquoted : parse (fileWith [] [⟨"username", .plain "bench"⟩] .project (.quoted true "0x1F")) =
      .ok ⟨"0x1F", "bench"⟩ := by
    decide +kernel
  obtain ⟨hplain, hsame⟩ := @parse_unquoted [] [⟨"username", .plain "bench"⟩] .project "0x1F" "31"
    _ hlines (by decide) hvalue (by decide) true
  rw [hquoted] at hplain
  refine ⟨hquoted, hplain, fun hsurvives => ?_⟩
  have heq := (hsame _ hquoted).2.mpr hsurvives
  rw [hplain] at heq
  exact absurd heq (by decide)

/-- **The text of a field is altered**: a project that is named `0x1F` is another one without the
quotes. -/
theorem hexadecimal_altered :
    parse "project_id: '0x1F'\nusername: bench\n" = .ok ⟨"0x1F", "bench"⟩ ∧
      parse "project_id: 0x1F\nusername: bench\n" = .ok ⟨"31", "bench"⟩ := by
  decide +kernel

end Profile

end GeoBench.Cloud
