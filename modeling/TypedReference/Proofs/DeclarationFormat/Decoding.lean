/-
# Declarations read back

Nothing of a declaration is lost when it is written: it can be decoded from the data as which it is
written, and files of different declarations have different texts.
-/
import TypedReference.Emission
import TypedReference.Proofs.Datum
import TypedReference.Proofs.DeclarationFormat

namespace TypedReference

/-! ## Decoders -/

/-- The text that a datum is. -/
def Datum.text? : Datum → Option String
  | .text s => some s
  | _ => none

mutual

/-- The type that is written as a datum. The arity of a tuple is that of its items. -/
def ApiType.ofDatum? : Datum → Option ApiType
  | .object [("kind", .text "primitive"), ("name", .text name)] => some (.primitive name)
  | .object [("kind", .text "any")] => some .any
  | .object [("kind", .text "regex")] => some .regex
  | .object [("kind", .text "nullable"), ("inner", inner)] =>
    (ApiType.ofDatum? inner).map .nullable
  | .object [("kind", .text "array"), ("inner", inner)] => (ApiType.ofDatum? inner).map .array
  | .object [("kind", .text "tuple"), ("arity", .int _), ("items", .list items)] =>
    (ApiType.ofData? items).map .tuple
  | .object [("kind", .text "named"), ("path", .list path)] =>
    (path.mapM Datum.text?).map .named
  | .object [("kind", .text "map"), ("key", key), ("value", value)] =>
    (ApiType.ofDatum? key).bind fun k => (ApiType.ofDatum? value).map fun v => .map k v
  | .object [("kind", .text "function"), ("args", .list args), ("ret", ret)] =>
    (ApiType.ofData? args).bind fun ts => (ApiType.ofDatum? ret).map fun t => .function ts t
  | _ => none

/-- The types that are written as some data. -/
def ApiType.ofData? : List Datum → Option (List ApiType)
  | [] => some []
  | d :: ds => (ApiType.ofDatum? d).bind fun t => (ApiType.ofData? ds).map fun ts => t :: ts

end

/-- The argument that is written as a datum. -/
def Argument.ofDatum? : Datum → Option Argument
  | .object [("name", .text name), ("optional", .bool optional), ("array_depth", .int depth),
      ("type", type)] =>
    (ApiType.ofDatum? type).map fun t => ⟨name, optional, depth, t⟩
  | _ => none

/-- What a member is, from the datum as which it is written. -/
def MemberKind.ofDatum? : Datum → Option MemberKind
  | .object [("kind", .text "method"), ("args", .list args), ("ret", ret)] =>
    (args.mapM Argument.ofDatum?).bind fun as => (ApiType.ofDatum? ret).map fun t => .method as t
  | .object [("kind", .text "constructor"), ("args", .list args)] =>
    (args.mapM Argument.ofDatum?).map .constructor
  | .object [("kind", .text "property"), ("type", type)] => (ApiType.ofDatum? type).map .property
  | .object [("kind", .text "enum_constant"), ("type", type)] =>
    (ApiType.ofDatum? type).map .constant
  | _ => none

/-- The member that is written as a datum. -/
def Member.ofDatum? : Datum → Option Member
  | .object [("name", .text name), ("doc", .text doc), ("static", .bool isStatic), ("kind", kind),
      ("overloads", .list overloads)] =>
    (MemberKind.ofDatum? kind).bind fun k =>
    (overloads.mapM MemberKind.ofDatum?).map fun ks => ⟨name, k, doc, isStatic, ks⟩
  | _ => none

/-- The declaration that is written as a datum. -/
def Declaration.ofDatum? : Datum → Option Declaration
  | .object [("package", .list package), ("name", .text name), ("fields", .list members)] =>
    (package.mapM Datum.text?).bind fun path =>
    (members.mapM Member.ofDatum?).map fun ms => ⟨path, name, ms⟩
  | _ => none

/-! ## Written and decoded -/

/-- Data that are decoded one by one are decoded together. -/
theorem mapM_map_eq_some {α : Type} {decode : Datum → Option α} {encode : α → Datum} {l : List α}
    (h : ∀ a ∈ l, decode (encode a) = some a) : (l.map encode).mapM decode = some l := by
  induction l with
  | nil => rfl
  | cons a l ih =>
      rw [List.forall_mem_cons] at h
      rw [List.map_cons, List.mapM_cons, h.1, ih h.2]
      rfl

theorem Datum.mapM_text? (texts : List String) :
    (texts.map Datum.text).mapM Datum.text? = some texts :=
  mapM_map_eq_some fun _ _ => rfl

namespace ApiType

theorem ofData?_toData {ts : List ApiType} (h : ∀ t ∈ ts, ofDatum? t.toDatum = some t) :
    ofData? (toData ts) = some ts := by
  induction ts with
  | nil => rfl
  | cons t ts ih =>
      rw [List.forall_mem_cons] at h
      rw [toData, ofData?, h.1, ih h.2]
      rfl

/-- A written type is decoded. -/
theorem ofDatum?_toDatum (t : ApiType) : ofDatum? t.toDatum = some t := by
  induction t using ApiType.induction with
  | primitive name | any | regex => rfl
  | nullable inner ih | array inner ih => rw [toDatum, ofDatum?, ih]; rfl
  | tuple items ih => rw [toDatum, ofDatum?, ofData?_toData ih]; rfl
  | named path => rw [toDatum, Datum.ofTexts, ofDatum?, Datum.mapM_text?]; rfl
  | map key value hkey hvalue => rw [toDatum, ofDatum?, hkey, hvalue]; rfl
  | function args ret hargs hret => rw [toDatum, ofDatum?, ofData?_toData hargs, hret]; rfl

end ApiType

theorem Argument.ofDatum?_toDatum (a : Argument) : ofDatum? a.toDatum = some a := by
  rw [toDatum, ofDatum?, ApiType.ofDatum?_toDatum]
  rfl

theorem MemberKind.ofDatum?_toDatum (k : MemberKind) : ofDatum? k.toDatum = some k := by
  have hargs : ∀ args : List Argument,
      (args.map Argument.toDatum).mapM Argument.ofDatum? = some args :=
    fun args => mapM_map_eq_some fun a _ => a.ofDatum?_toDatum
  cases k with
  | method args ret => rw [toDatum, ofDatum?, hargs, ApiType.ofDatum?_toDatum]; rfl
  | constructor args => rw [toDatum, ofDatum?, hargs]; rfl
  | property type | constant type => rw [toDatum, ofDatum?, ApiType.ofDatum?_toDatum]; rfl

theorem Member.ofDatum?_toDatum (m : Member) : ofDatum? m.toDatum = some m := by
  rw [toDatum, ofDatum?, MemberKind.ofDatum?_toDatum,
    mapM_map_eq_some fun k _ => MemberKind.ofDatum?_toDatum k]
  rfl

/-- A written declaration is decoded. -/
theorem Declaration.ofDatum?_toDatum (d : Declaration) : ofDatum? d.toDatum = some d := by
  rw [toDatum, Datum.ofTexts, ofDatum?, Datum.mapM_text?,
    mapM_map_eq_some fun m _ => Member.ofDatum?_toDatum m]
  rfl

/-! ## Whole numbers only -/

@[simp] theorem Datum.whole_ofTexts (texts : List String) : (ofTexts texts).Whole := by
  rw [ofTexts, whole_list, List.forall_mem_map]
  exact fun s _ => .text

/-- A type is written with whole numbers only. -/
theorem ApiType.whole_toDatum (t : ApiType) : t.toDatum.Whole := by
  induction t using ApiType.induction with
  | primitive name | any | regex | named path => simp [toDatum]
  | nullable inner ih | array inner ih => simp [toDatum, ih]
  | tuple items ih => simpa [toDatum, toData_eq_map] using ih
  | map key value hkey hvalue => simp [toDatum, hkey, hvalue]
  | function args ret hargs hret => simpa [toDatum, toData_eq_map, hret] using hargs

theorem Argument.whole_toDatum (a : Argument) : a.toDatum.Whole := by
  simp [toDatum, ApiType.whole_toDatum]

theorem MemberKind.whole_toDatum (k : MemberKind) : k.toDatum.Whole := by
  cases k with
  | method args ret | constructor args | property type | constant type =>
      simp [toDatum, ApiType.whole_toDatum, Argument.whole_toDatum]

theorem Member.whole_toDatum (m : Member) : m.toDatum.Whole := by
  simp [toDatum, MemberKind.whole_toDatum]

/-- So is a declaration. -/
theorem Declaration.whole_toDatum (d : Declaration) : d.toDatum.Whole := by
  simp [toDatum, Member.whole_toDatum]

/-! ## Nothing is lost -/

/-- What can be decoded is written in different ways. -/
theorem injective_of_decoded {α : Type} {encode : α → Datum} {decode : Datum → Option α}
    (h : ∀ a, decode (encode a) = some a) : Function.Injective encode := by
  have hcomp : decode ∘ encode = some := funext h
  apply Function.Injective.of_comp (f := decode)
  rw [hcomp]
  exact fun _ _ => Option.some.inj

/-- **Nothing is lost in writing.** Different types, signatures and declarations are different data;
a declaration is decoded from its data, in full and in order; and at any indent the files of
different declarations have different texts. -/
theorem Declaration.faithfully_written :
    Function.Injective ApiType.toDatum ∧ Function.Injective MemberKind.toDatum ∧
      Function.Injective Declaration.toDatum ∧
      (∀ d : Declaration, Declaration.ofDatum? d.toDatum = some d) ∧
      ∀ indent, Function.Injective (Declaration.fileText indent) := by
  have hdeclaration : Function.Injective Declaration.toDatum :=
    injective_of_decoded Declaration.ofDatum?_toDatum
  refine ⟨injective_of_decoded ApiType.ofDatum?_toDatum,
    injective_of_decoded MemberKind.ofDatum?_toDatum, hdeclaration,
    Declaration.ofDatum?_toDatum, ?_⟩
  intro indent d d' h
  have hwritten : d.toDatum.written ⟨indent⟩ = d'.toDatum.written ⟨indent⟩ := by
    have hchars := congrArg String.toList h
    rw [fileText, fileText, String.toList_append, String.toList_append] at hchars
    exact String.toList_injective (List.append_cancel_right hchars)
  exact hdeclaration (Datum.written_inj ⟨indent⟩ d.whole_toDatum d'.whole_toDatum hwritten)

end TypedReference
