import Mathlib.Data.List.Nodup
import StatSchema.Statistics.Full

/-!
# `StatSchema.Proofs.Catalog.Opening` — telling objects apart by their statements

The definition of an object begins with a few words that depend on its kind, and then its name. So the
statements that install or remove an object tell which one it is, provided that names are distinct and
plain (`Legible`). The whole schema is legible: for its views this is how they are rendered, for its
table and functions it is how their bodies are written.

## Contents
- **Openings.** `ObjectKind.opening`, `ObjectKind.stop`, `SchemaObject.Opens`.
- **Legible lists.** `Legible`, `Legible.eq_of_create`, `Legible.eq_of_drop`.
- **The whole schema.** `full_legible`.
-/

namespace StatSchema

/-! ## Openings -/

/-- The words with which the definition of an object begins. -/
def ObjectKind.opening : ObjectKind → List Char
  | .table => "CREATE TABLE ".toList
  | .function _ => "CREATE OR REPLACE FUNCTION ".toList
  | .materializedView => "CREATE MATERIALIZED VIEW ".toList
  | .view => "CREATE VIEW ".toList

/-- The character that follows the name of an object in its definition. -/
def ObjectKind.stop : ObjectKind → Char
  | .function _ => '('
  | _ => ' '

/-- The letter after `CREATE` by which the openings differ. -/
def ObjectKind.openingLetter : ObjectKind → Char
  | .table => 'T'
  | .function _ => 'O'
  | .materializedView => 'M'
  | .view => 'V'

/-- The letter after `DROP` by which the types differ. -/
def ObjectKind.typeLetter : ObjectKind → Char
  | .table => 'T'
  | .function _ => 'F'
  | .materializedView => 'M'
  | .view => 'V'

/-- Words that differ at one place differ whatever follows them. -/
theorem ObjectKind.letter_inj {words : ObjectKind → List Char} {letter : ObjectKind → Char} (n : Nat)
    (place : ∀ k, (words k)[n]? = some (letter k)) {k k' : ObjectKind} {xs ys : List Char}
    (h : words k ++ xs = words k' ++ ys) : letter k = letter k' := by
  have hplace (k : ObjectKind) (xs : List Char) : (words k ++ xs)[n]? = some (letter k) := by
    obtain ⟨hlt, -⟩ := List.getElem?_eq_some_iff.mp (place k)
    rw [List.getElem?_append_left hlt, place]
  apply Option.some.inj
  rw [← hplace k xs, h, hplace k' ys]

theorem ObjectKind.opening_place (k : ObjectKind) : k.opening[7]? = some k.openingLetter := by
  cases k with
  | function signature =>
    show "CREATE OR REPLACE FUNCTION ".toList[7]? = some 'O'
    decide
  | _ => decide

theorem ObjectKind.opening_inj {k k' : ObjectKind} {xs ys : List Char}
    (h : k.opening ++ xs = k'.opening ++ ys) : k.stop = k'.stop ∧ xs = ys := by
  have hletter := letter_inj 7 opening_place h
  cases k <;> cases k' <;>
    first
    | (simp only [openingLetter, Char.reduceEq] at hletter; done)
    | exact ⟨rfl, List.append_cancel_left h⟩

/-- The words of the statement that removes an object, up to its name. -/
def ObjectKind.dropWords (k : ObjectKind) : List Char :=
  ("DROP " ++ k.sqlType ++ " IF EXISTS ").toList

theorem ObjectKind.dropWords_place (k : ObjectKind) : k.dropWords[5]? = some k.typeLetter := by
  cases k with
  | function signature =>
    show ("DROP " ++ "FUNCTION" ++ " IF EXISTS ").toList[5]? = some 'F'
    decide
  | _ => decide

theorem ObjectKind.dropWords_inj {k k' : ObjectKind} {xs ys : List Char}
    (h : k.dropWords ++ xs = k'.dropWords ++ ys) : k.typeLetter = k'.typeLetter ∧ xs = ys := by
  have hletter := letter_inj 5 dropWords_place h
  refine ⟨hletter, ?_⟩
  cases k <;> cases k' <;>
    first
    | (simp only [typeLetter, Char.reduceEq] at hletter; done)
    | exact List.append_cancel_left h

namespace SchemaObject

variable {o : SchemaObject}

theorem dropStatement_toList (o : SchemaObject) :
    o.dropStatement.toList = o.kind.dropWords ++ o.qualifiedName.toList :=
  String.toList_append

/-- A function is named with its argument types, any other object as it is. -/
theorem qualifiedName_cases (o : SchemaObject) :
    (o.kind.typeLetter = 'F' ∧ ∃ tail, o.qualifiedName.toList = o.name.toList ++ '(' :: tail) ∨
      (o.kind.typeLetter ≠ 'F' ∧ o.qualifiedName.toList = o.name.toList) := by
  unfold qualifiedName
  cases o.kind with
  | function signature =>
    refine .inl ⟨rfl, (signature ++ ")").toList, ?_⟩
    show (o.name ++ "(" ++ signature ++ ")").toList = _
    rw [String.append_assoc, String.append_assoc, String.toList_append, String.toList_append]
    rfl
  | _ => exact .inr ⟨by decide, rfl⟩

/-- The statements that install the object begin with its opening and its name. -/
def Opens (o : SchemaObject) : Prop :=
  ∃ head rest tail, o.createStatements = head :: rest ∧
    head.toList = o.kind.opening ++ (o.name.toList ++ o.kind.stop :: tail)

theorem opens_of_materialized (h : o.kind = .materializedView) : o.Opens := by
  refine ⟨_, _, "AS\n".toList ++ (Text.trim o.body).toList,
    by rw [createStatements, definition, h]; rfl, ?_⟩
  rw [h, String.toList_append, String.toList_append, String.toList_append]
  simp only [List.append_assoc]
  rfl

theorem opens_of_view (h : o.kind = .view) : o.Opens := by
  refine ⟨_, _, "AS\n".toList ++ (Text.trim o.body).toList,
    by rw [createStatements, definition, h]; rfl, ?_⟩
  rw [h, String.toList_append, String.toList_append, String.toList_append]
  simp only [List.append_assoc]
  rfl

/-- An object whose body is its definition opens as the body does after a line break. -/
theorem opens_of_body (tail : List Char) (whole : o.definition = [Text.trim o.body])
    (last : ∀ c ∈ (o.kind.stop :: tail).getLast?, Text.isBlank c = false)
    (h : '\n' :: (o.kind.opening ++ (o.name.toList ++ o.kind.stop :: tail)) <+: o.body.toList) :
    o.Opens := by
  obtain ⟨rest, hbody⟩ := h
  have hfirst : o.kind.opening.head? = some 'C' := by cases o.kind <;> rfl
  obtain ⟨more, hmore⟩ : o.kind.opening ++ (o.name.toList ++ o.kind.stop :: tail) <+:
      Text.trimChars (['\n'] ++ (o.kind.opening ++ (o.name.toList ++ o.kind.stop :: tail) ++ rest)) := by
    apply Text.prefix_trimChars
    · exact List.forall_mem_singleton.mpr (by decide)
    · rw [List.head?_append, hfirst]
      rintro c ⟨⟩
      decide
    · rw [List.getLast?_append, List.getLast?_append, Option.or_of_isSome (by simp),
        Option.or_of_isSome (by simp)]
      exact last
  refine ⟨_, _, tail ++ more, by rw [createStatements, whole]; rfl, ?_⟩
  rw [Text.trim, String.toList_ofList, ← hbody]
  refine hmore.symm.trans ?_
  simp only [List.append_assoc, List.cons_append]

end SchemaObject

/-! ## Legible lists -/

/-- Objects that can be told apart by the statements about them. -/
structure Legible (objects : List SchemaObject) : Prop where
  opens : ∀ o ∈ objects, o.Opens
  plain : ∀ o ∈ objects, ' ' ∉ o.name.toList ∧ '(' ∉ o.name.toList
  distinct : (objects.map (·.name)).Nodup

/-- What stands before a character that occurs neither here nor there. -/
theorem eq_of_append_stop {stop : Char} {xs ys s t : List Char} (hx : stop ∉ xs) (hy : stop ∉ ys)
    (h : xs ++ stop :: s = ys ++ stop :: t) : xs = ys := by
  rcases List.append_eq_append_iff.mp h with ⟨as, rfl, has⟩ | ⟨as, rfl, has⟩
  · cases as with
    | nil => exact (List.append_nil xs).symm
    | cons a as =>
      cases has
      exact absurd (List.mem_append_right xs List.mem_cons_self) hy
  · cases as with
    | nil => exact List.append_nil ys
    | cons a as =>
      cases has
      exact absurd (List.mem_append_right ys List.mem_cons_self) hx

namespace Legible

variable {objects : List SchemaObject} {o o' : SchemaObject}

theorem eq_of_name (h : Legible objects) (ho : o ∈ objects) (ho' : o' ∈ objects)
    (name : o.name.toList = o'.name.toList) : o = o' :=
  List.inj_on_of_nodup_map h.distinct ho ho' (String.toList_inj.mp name)

theorem stop_notMem (h : Legible objects) (ho : o ∈ objects) (k : ObjectKind) :
    k.stop ∉ o.name.toList := by
  cases k with
  | function signature => exact (h.plain o ho).2
  | _ => exact (h.plain o ho).1

/-- Only one object can be installed by statements. -/
theorem eq_of_create (h : Legible objects) (ho : o ∈ objects) (ho' : o' ∈ objects)
    {xs ys : List String} (create : o.createStatements ++ xs = o'.createStatements ++ ys) : o = o' := by
  obtain ⟨head, rest, tail, hcreate, hhead⟩ := h.opens o ho
  obtain ⟨head', rest', tail', hcreate', hhead'⟩ := h.opens o' ho'
  rw [hcreate, hcreate', List.cons_append, List.cons_append] at create
  have heq : head = head' := (List.cons.inj create).1
  rw [heq, hhead'] at hhead
  obtain ⟨hstop, hrest⟩ := ObjectKind.opening_inj hhead
  rw [hstop] at hrest
  exact h.eq_of_name ho ho' (eq_of_append_stop (h.stop_notMem ho' _) (h.stop_notMem ho _) hrest).symm

/-- Only one object can be removed by a statement. -/
theorem eq_of_drop (h : Legible objects) (ho : o ∈ objects) (ho' : o' ∈ objects)
    (drop : o.dropStatement = o'.dropStatement) : o = o' := by
  have htext := congrArg String.toList drop
  rw [SchemaObject.dropStatement_toList, SchemaObject.dropStatement_toList] at htext
  obtain ⟨hletter, hname⟩ := ObjectKind.dropWords_inj htext
  apply h.eq_of_name ho ho'
  rcases o.qualifiedName_cases with ⟨hF, tail, hq⟩ | ⟨hF, hq⟩ <;>
    rcases o'.qualifiedName_cases with ⟨hF', tail', hq'⟩ | ⟨hF', hq'⟩
  · rw [hq, hq'] at hname
    exact eq_of_append_stop (h.plain o ho).2 (h.plain o' ho').2 hname
  · exact absurd (hletter ▸ hF) hF'
  · exact absurd (hletter ▸ hF') hF
  · rw [hq, hq'] at hname
    exact hname

end Legible

/-! ## The whole schema -/

theorem prefix_literal {p cs : List Char} (h : p <+: cs) : p <+: (String.ofList cs).toList := by
  rw [String.toList_ofList]
  exact h

theorem prefix_append {p : List Char} {s : String} (t : String) (h : p <+: s.toList) :
    p <+: (s ++ t).toList := by
  rw [String.toList_append]
  exact List.prefix_append_of_prefix h

/-- The table and the functions, whose definitions are written out. -/
theorem written_opens :
    ∀ o ∈ Statistics.FirstAppearance.objects ++ Statistics.SqlFunctions.objects, o.Opens := by
  simp only [Statistics.FirstAppearance.objects, Statistics.SqlFunctions.objects, List.cons_append,
    List.nil_append, List.forall_mem_cons]
  refine ⟨?table, ?topUp, ?transactionCount, ?totalSellValue, ?hexToNumeric,
    fun o ho => absurd ho List.not_mem_nil⟩
  case table =>
    refine SchemaObject.opens_of_body ['('] rfl (by rintro c ⟨⟩; decide) ?_
    apply prefix_literal
    decide
  case topUp =>
    refine SchemaObject.opens_of_body [] rfl (by rintro c ⟨⟩; decide) ?_
    iterate 2 apply prefix_append
    apply prefix_literal
    decide
  case transactionCount =>
    refine SchemaObject.opens_of_body [] rfl (by rintro c ⟨⟩; decide) ?_
    iterate 4 apply prefix_append
    apply prefix_literal
    decide
  case totalSellValue =>
    refine SchemaObject.opens_of_body [] rfl (by rintro c ⟨⟩; decide) ?_
    iterate 4 apply prefix_append
    apply prefix_literal
    decide
  case hexToNumeric =>
    refine SchemaObject.opens_of_body [] rfl (by rintro c ⟨⟩; decide) ?_
    apply prefix_literal
    decide

/-- All other objects are views. -/
theorem rendered_views : ∀ g ∈ Statistics.groups.drop 2, ∀ o ∈ g,
    o.kind = .materializedView ∨ o.kind = .view := by
  decide +kernel

/-- **The statements about the objects of the whole schema tell them apart.** -/
theorem full_legible : Legible Catalog.full.objects := by
  refine ⟨?_, by decide +kernel, by decide +kernel⟩
  intro o ho
  -- The first two groups hold the table and the functions, all others views.
  obtain ⟨g, hg, ho⟩ := List.mem_flatten.mp ho
  rcases List.mem_cons.mp hg with rfl | hg
  · exact written_opens o (List.mem_append_left _ ho)
  rcases List.mem_cons.mp hg with rfl | hg
  · exact written_opens o (List.mem_append_right _ ho)
  rcases rendered_views g hg o ho with hkind | hkind
  · exact SchemaObject.opens_of_materialized hkind
  · exact SchemaObject.opens_of_view hkind

end StatSchema
