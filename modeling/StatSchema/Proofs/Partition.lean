import Mathlib.Data.List.Nodup
import StatSchema.Proofs.Catalog.Violations

/-!
# `StatSchema.Proofs.Partition` — which names are read as the table of a partition

The name of a partition table ends in the number of the partition, in two digits. Reading a name back asks
for two characters that are a number, and a number may begin with a plus sign. So besides the table's own
name there is a second one for each partition of one digit: `transaction_partition_+5` is read as the table
of partition 5, and as there is no table of that name, a catalog that declares it is accepted by mistake
(`partitionTables_read`). No other name is read.

## Contents
- **Numerals.** `Text.digitValue?_eq_some_iff`; numerals of one and two digits, `Text.unsigned?_pair`;
  `Text.toList_padded_two`.
- **Names.** `plusTable`, `NamesPartition`; `parsePartitionTable?_eq_some_iff`.
- **Base tables.** `knownTable_iff`, `Catalog.unknownTable_mem_problems_iff`.
- **Kinds.** Every partition holds one kind: `TransactionKind.map_partition_all`, `exists_kind_iff`;
  `parsePartitionTable?_table`, `exists_kind_of_read`, `knownTable_table`.
- **Main result.** `partitionTables_read`.
-/

namespace StatSchema

/-! ## Numerals -/

namespace Text

variable {largest n : Nat} {a b c : Char}

/-- The characters with a value are the digits. -/
theorem digitValue?_eq_some_iff : digitValue? c = some n ↔ n < 10 ∧ c = Nat.digitChar n := by
  unfold digitValue?
  constructor
  · intro h
    by_cases hdigit : c.isDigit
    · rw [if_pos hdigit, Option.some.injEq] at h
      have hbounds : 48 ≤ c.toNat ∧ c.toNat ≤ 57 := Char.isDigit_iff_toNat.mp hdigit
      have hvalue : c.toNat - 48 = n := h
      have hn : n < 10 := by omega
      refine ⟨hn, Char.toNat_inj.mp ?_⟩
      rw [Nat.toNat_digitChar_of_lt_ten hn]
      omega
    · rw [if_neg hdigit] at h
      cases h
  · rintro ⟨hn, rfl⟩
    have hdigit : (Nat.digitChar n).isDigit = true := by simp [hn]
    have hvalue : (48 + n) - '0'.toNat = n := Nat.add_sub_cancel_left 48 n
    rw [if_pos hdigit, Nat.toNat_digitChar_of_lt_ten hn, hvalue]

/-- A plus sign has no value. -/
theorem digitChar_ne_plus (hn : n < 10) : Nat.digitChar n ≠ '+' := by
  intro h
  have hplus : digitValue? '+' = some n := digitValue?_eq_some_iff.mpr ⟨hn, h.symm⟩
  cases hplus

/-- A numeral of one digit. -/
theorem numeral?_single : numeral? [a] = some n ↔ n < 10 ∧ a = Nat.digitChar n := by
  rw [← digitValue?_eq_some_iff]
  simp [numeral?, numeralFrom?]

/-- A numeral of two digits. -/
theorem numeral?_pair :
    numeral? [a, b] = some n ↔ n < 100 ∧ a = Nat.digitChar (n / 10) ∧ b = Nat.digitChar (n % 10) := by
  have hparts : numeral? [a, b] = some n ↔
      ∃ tens, digitValue? a = some tens ∧ ∃ ones, digitValue? b = some ones ∧ 10 * tens + ones = n := by
    simp [numeral?, numeralFrom?, Option.bind_eq_some_iff]
  rw [hparts]
  constructor
  · rintro ⟨tens, htens, ones, hones, rfl⟩
    obtain ⟨htens, rfl⟩ := digitValue?_eq_some_iff.mp htens
    obtain ⟨hones, rfl⟩ := digitValue?_eq_some_iff.mp hones
    have hdiv : (10 * tens + ones) / 10 = tens := by omega
    have hmod : (10 * tens + ones) % 10 = ones := by omega
    rw [hdiv, hmod]
    exact ⟨by omega, rfl, rfl⟩
  · rintro ⟨hn, rfl, rfl⟩
    refine ⟨n / 10, digitValue?_eq_some_iff.mpr ⟨by omega, rfl⟩, n % 10, ?_, Nat.div_add_mod n 10⟩
    exact digitValue?_eq_some_iff.mpr ⟨Nat.mod_lt n (by decide), rfl⟩

/-- **Two characters are a number** if they are its two digits, or its one digit after a plus sign. -/
theorem unsigned?_pair :
    unsigned? largest [a, b] = some n ↔
      n ≤ largest ∧ ((n < 100 ∧ [a, b] = [Nat.digitChar (n / 10), Nat.digitChar (n % 10)]) ∨
        (n < 10 ∧ [a, b] = ['+', Nat.digitChar n])) := by
  by_cases hplus : a = '+'
  · subst hplus
    have hread : unsigned? largest ['+', b] = (numeral? [b]).filter (· ≤ largest) := rfl
    have hdigits : n < 100 → '+' ≠ Nat.digitChar (n / 10) := fun hn =>
      (digitChar_ne_plus (by omega : n / 10 < 10)).symm
    rw [hread, Option.filter_eq_some_iff, numeral?_single]
    simp only [List.cons.injEq, and_true, true_and, decide_eq_true_iff]
    constructor
    · rintro ⟨hone, hle⟩
      exact ⟨hle, .inr hone⟩
    · rintro ⟨hle, ⟨hn, hfirst, -⟩ | hone⟩
      · exact absurd hfirst (hdigits hn)
      · exact ⟨hone, hle⟩
  · have hread : unsigned? largest [a, b] = (numeral? [a, b]).filter (· ≤ largest) := by
      unfold unsigned?
      split
      · next heq => exact absurd (List.cons.inj heq).1 hplus
      · rfl
    rw [hread, Option.filter_eq_some_iff, numeral?_pair]
    simp [hplus, and_comm]

/-- A number below a hundred is written in its two digits. -/
theorem toList_padded_two (hn : n < 100) :
    (padded 2 n).toList = [Nat.digitChar (n / 10), Nat.digitChar (n % 10)] := by
  have hchars : (padded 2 n).toList =
      List.replicate (2 - (Nat.toDigits 10 n).length) '0' ++ Nat.toDigits 10 n :=
    String.toList_ofList
  rw [hchars]
  by_cases hone : n < 10
  · rw [Nat.toDigits_of_lt_base hone, Nat.div_eq_of_lt hone, Nat.mod_eq_of_lt hone]
    rfl
  · have htens : n / 10 < 10 := by omega
    rw [Nat.toDigits_of_base_le (by decide) (Nat.le_of_not_lt hone), Nat.toDigits_of_lt_base htens]
    rfl

end Text

/-! ## Names -/

/-- A name that is read as the table of a partition of one digit and is not the table's: a plus sign stands
    in place of the zero. -/
def plusTable (partition : Nat) : String :=
  partitionStem ++ "+" ++ toString partition

/-- The name is read as the table of the partition. -/
def NamesPartition (name : String) (partition : Nat) : Prop :=
  (1 ≤ partition ∧ partition ≤ partitionCount) ∧
    (name = partitionTable partition ∨ partition < 10 ∧ name = plusTable partition)

variable {name : String} {partition : Nat}

theorem toList_partitionTable (h : partition < 100) :
    (partitionTable partition).toList =
      partitionStem.toList ++ [Nat.digitChar (partition / 10), Nat.digitChar (partition % 10)] := by
  rw [partitionTable, String.toList_append, Text.toList_padded_two h]

theorem toList_plusTable (h : partition < 10) :
    (plusTable partition).toList = partitionStem.toList ++ ['+', Nat.digitChar partition] := by
  have hdigits : (toString partition).toList = [Nat.digitChar partition] := by
    rw [← Nat.toDigits_of_lt_base h]
    exact String.toList_ofList
  rw [plusTable, String.toList_append, String.toList_append, hdigits, List.append_assoc]
  rfl

/-- **What is read as the table of a partition.** -/
theorem parsePartitionTable?_eq_some_iff :
    parsePartitionTable? name = some partition ↔ NamesPartition name partition := by
  have hread : parsePartitionTable? name = some partition ↔
      ∃ a b, name.toList = partitionStem.toList ++ [a, b] ∧
        Text.unsigned? partitionCount [a, b] = some partition ∧ 1 ≤ partition := by
    unfold parsePartitionTable?
    split
    · next tens ones hrest =>
      have hname := Text.dropLeading?_eq_some_iff.mp hrest
      simp only [Option.filter_eq_some_iff, decide_eq_true_iff, hname]
      constructor
      · rintro ⟨hnumber, hpos⟩
        exact ⟨tens, ones, rfl, hnumber, hpos⟩
      · rintro ⟨a, b, hab, hnumber, hpos⟩
        cases List.append_cancel_left hab
        exact ⟨hnumber, hpos⟩
    · next hnone =>
      simp only [reduceCtorEq, false_iff]
      rintro ⟨a, b, hname, -⟩
      exact hnone a b (Text.dropLeading?_eq_some_iff.mpr hname)
  have hcount : partition ≤ partitionCount → partition < 100 := fun h => Nat.lt_of_le_of_lt h (by decide)
  rw [hread, NamesPartition]
  simp only [Text.unsigned?_pair]
  constructor
  · rintro ⟨a, b, hname, ⟨hle, hdigits⟩, hpos⟩
    refine ⟨⟨hpos, hle⟩, ?_⟩
    rcases hdigits with ⟨hn, hdigits⟩ | ⟨hn, hdigits⟩
    · refine .inl (String.toList_inj.mp ?_)
      rw [hname, hdigits, toList_partitionTable hn]
    · refine .inr ⟨hn, String.toList_inj.mp ?_⟩
      rw [hname, hdigits, toList_plusTable hn]
  · rintro ⟨⟨hpos, hle⟩, rfl | ⟨hn, rfl⟩⟩
    · exact ⟨_, _, toList_partitionTable (hcount hle), ⟨hle, .inl ⟨hcount hle, rfl⟩⟩, hpos⟩
    · exact ⟨_, _, toList_plusTable hn, ⟨hle, .inr ⟨hn, rfl⟩⟩, hpos⟩

/-- The second name of a partition is the name of no table. -/
theorem plusTable_ne_partitionTable {other : Nat} (h : partition < 10) (hother : other ≤ partitionCount) :
    plusTable partition ≠ partitionTable other := by
  have hsmall : other < 100 := Nat.lt_of_le_of_lt hother (by decide)
  intro heq
  have hchars := congrArg String.toList heq
  rw [toList_plusTable h, toList_partitionTable hsmall] at hchars
  have hfirst : '+' = Nat.digitChar (other / 10) := (List.cons.inj (List.append_cancel_left hchars)).1
  exact Text.digitChar_ne_plus (by omega) hfirst.symm

/-! ## Base tables -/

theorem knownTable_iff {table : String} :
    KnownTable table ↔ table ∈ baseTables ∨ ∃ partition, NamesPartition table partition := by
  unfold KnownTable
  simp only [Option.isSome_iff_exists, parsePartitionTable?_eq_some_iff]

/-- A table that an object declares is reported as unknown if it is. -/
theorem Catalog.unknownTable_mem_problems_iff {c : Catalog} {o : SchemaObject} (ho : o ∈ c.objects)
    {table : String} (declared : table ∈ o.baseTables) :
    .unknownTable o.name table ∈ c.problems ↔ ¬ KnownTable table := by
  obtain ⟨found, ⟨-, exact⟩, hproblems⟩ := c.reports_problems
  have hreported : .unknownTable o.name table ∈ c.problems ↔
      ∃ place, c.Breaks place (.unknownTable o.name table) := by
    rw [← hproblems]
    simp [← exact]
  rw [hreported]
  constructor
  · rintro ⟨place, i, p, rest, -, -, hbreaks⟩
    generalize hproblem : Problem.unknownTable o.name table = problem at hbreaks
    cases hbreaks with
    | unknownTable entry unknown =>
      obtain ⟨-, rfl⟩ := Problem.unknownTable.inj hproblem
      exact unknown
    | _ => cases hproblem
  · intro unknown
    obtain ⟨i, hi⟩ := List.mem_iff_getElem?.mp ho
    obtain ⟨j, hj⟩ := List.mem_iff_getElem?.mp declared
    exact ⟨_, i, o, _, hi, rfl, .unknownTable hj unknown⟩

/-! ## Kinds -/

namespace TransactionKind

theorem mem_all (kind : TransactionKind) : kind ∈ all := by
  cases kind <;> decide

/-- **The partitions hold one kind each,** in the order in which the kinds are listed. -/
theorem map_partition_all : all.map (·.partition) = List.range' 1 partitionCount := by
  decide

/-- Just the numbers from 1 to `partitionCount` are the partition of a kind. -/
theorem exists_kind_iff :
    (∃ kind : TransactionKind, kind.partition = partition) ↔
      1 ≤ partition ∧ partition ≤ partitionCount := by
  have hlisted : (∃ kind : TransactionKind, kind.partition = partition) ↔
      partition ∈ all.map (·.partition) := by
    simp [mem_all]
  rw [hlisted, map_partition_all, List.mem_range'_1]
  omega

/-- What takes different values on the kinds that are listed tells all kinds apart. -/
theorem injective_of_nodup {α : Type} {f : TransactionKind → α} (h : (all.map f).Nodup) :
    Function.Injective f :=
  fun a b hab => List.inj_on_of_nodup_map h (mem_all a) (mem_all b) hab

theorem partition_injective : Function.Injective TransactionKind.partition := by
  refine injective_of_nodup ?_
  rw [map_partition_all]
  exact List.nodup_range'

/-- A kind is known by the name under which it is shown. -/
theorem label_injective : Function.Injective label :=
  injective_of_nodup (by decide)

theorem namesPartition_table (kind : TransactionKind) : NamesPartition kind.table kind.partition :=
  ⟨exists_kind_iff.mp ⟨kind, rfl⟩, .inl rfl⟩

/-- The name of a kind's table is read back as its partition. -/
theorem parsePartitionTable?_table (kind : TransactionKind) :
    parsePartitionTable? kind.table = some kind.partition :=
  parsePartitionTable?_eq_some_iff.mpr kind.namesPartition_table

theorem table_injective : Function.Injective table := by
  intro a b h
  have hread := parsePartitionTable?_table a
  rw [h, parsePartitionTable?_table b] at hread
  exact partition_injective (Option.some.inj hread).symm

/-- What is read is the partition of a kind: there is no table without one. -/
theorem exists_kind_of_read (h : parsePartitionTable? name = some partition) :
    ∃ kind : TransactionKind, kind.partition = partition :=
  exists_kind_iff.mpr (parsePartitionTable?_eq_some_iff.mp h).1

/-- An object may declare the table of any kind. -/
theorem knownTable_table (kind : TransactionKind) : KnownTable kind.table :=
  knownTable_iff.mpr (.inr ⟨kind.partition, kind.namesPartition_table⟩)

end TransactionKind

/-! ## Main result -/

/-- **Which names are read as the table of a partition.** A name is read as the table of a partition from 1
    to 33 if it is the table's name or has a plus sign in place of the zero; so a name is read back to
    itself only, unless it is one of the nine with a plus sign. A catalog whose object declares the name is
    told that there is no such table exactly if it is neither a base table nor read in this way. -/
theorem partitionTables_read (name : String) :
    (∀ partition, parsePartitionTable? name = some partition ↔ NamesPartition name partition) ∧
      ((∀ partition, parsePartitionTable? name = some partition ↔
          (1 ≤ partition ∧ partition ≤ partitionCount) ∧ name = partitionTable partition) ↔
        ¬ ∃ partition, 1 ≤ partition ∧ partition < 10 ∧ name = plusTable partition) ∧
      ∀ (c : Catalog), ∀ o ∈ c.objects, name ∈ o.baseTables →
        (.unknownTable o.name name ∉ c.problems ↔
          name ∈ baseTables ∨ ∃ partition, NamesPartition name partition) := by
  refine ⟨fun partition => parsePartitionTable?_eq_some_iff, ⟨?_, ?_⟩, ?_⟩
  · rintro own ⟨partition, hpos, hsmall, rfl⟩
    have hcount : partition ≤ partitionCount := Nat.le_trans (Nat.le_of_lt hsmall) (by decide)
    have hread : parsePartitionTable? (plusTable partition) = some partition :=
      parsePartitionTable?_eq_some_iff.mpr ⟨⟨hpos, hcount⟩, .inr ⟨hsmall, rfl⟩⟩
    exact plusTable_ne_partitionTable hsmall hcount ((own partition).mp hread).2
  · intro noPlus partition
    rw [parsePartitionTable?_eq_some_iff]
    constructor
    · rintro ⟨hrange, hname | ⟨hsmall, hname⟩⟩
      · exact ⟨hrange, hname⟩
      · exact absurd ⟨partition, hrange.1, hsmall, hname⟩ noPlus
    · rintro ⟨hrange, hname⟩
      exact ⟨hrange, .inl hname⟩
  · intro c o ho declared
    rw [Catalog.unknownTable_mem_problems_iff ho declared, not_not, knownTable_iff]

/-- A view of a table that is none. -/
def readingNoTable : SchemaObject :=
  { SchemaObject.view "posts" .keyed with
    baseTables := ["transaction_partition_+5"]
    body := "SELECT * FROM transaction_partition_+5"
    directives := [.hide] }

/-- A number after a plus sign is read as partition 5, though no table is called so, and a catalog that
    declares it is accepted. -/
theorem partitionTables_read_plusFive :
    parsePartitionTable? "transaction_partition_+5" = some 5 ∧
      (∀ partition, 1 ≤ partition ∧ partition ≤ partitionCount →
        partitionTable partition ≠ "transaction_partition_+5") ∧
      .unknownTable "posts" "transaction_partition_+5" ∉ (⟨[readingNoTable]⟩ : Catalog).problems ∧
      (⟨[readingNoTable]⟩ : Catalog).validate = .ok () := by
  have hname : plusTable 5 = "transaction_partition_+5" := by decide
  have hfive : NamesPartition "transaction_partition_+5" 5 := ⟨by decide, .inr ⟨by decide, hname.symm⟩⟩
  obtain ⟨hread, -, hknown⟩ := partitionTables_read "transaction_partition_+5"
  refine ⟨(hread 5).mpr hfive, fun partition hrange heq => ?_, ?_, by rfl⟩
  · exact plusTable_ne_partitionTable (by decide) hrange.2 (hname.trans heq.symm)
  · exact (hknown ⟨[readingNoTable]⟩ readingNoTable List.mem_cons_self List.mem_cons_self).mpr
      (.inr ⟨5, hfive⟩)

end StatSchema
