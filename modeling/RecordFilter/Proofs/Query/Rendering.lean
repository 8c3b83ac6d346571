import RecordFilter.Proofs.Calendar.Printed
import RecordFilter.Proofs.Number.Rounding
import RecordFilter.Proofs.Query.NormalForm

/-!
# Different queries have different documents

A document store sees a query as a document, so two queries that mean different things had better
have different documents.  Documents reuse names: a range has the names of the two tests that it is
made of, a pattern stands alone or below a negation, and a field may be called like a connective.
This file says that nothing is lost all the same, as long as the values themselves have documents of
their own.  These are all but the numbers that are not finite, negative zero, and dates inside of a
millisecond or in a leap second.

* `Operand.IsExact`, `Test.IsExact`, `Query.IsExact` — whether all numbers and dates have documents
  of their own.
* `FiniteDouble.toJson_inj` — a number written as an integer is no other number.
* `Operand.toJson_inj`, `Test.toJson_inj` — the same for values and for tests.
* `Query.document_inj` — different queries have different documents.
-/

set_option autoImplicit false

namespace RecordFilter

/-! ## Numbers -/

namespace FiniteDouble

variable {x y : FiniteDouble}

/-- Only zero has two signs. -/
theorem eq_of_key_eq (hx : x ≠ zero true) (hy : y ≠ zero true) (h : x.key = y.key) : x = y := by
  obtain ⟨negative, rank, hrank⟩ := x
  obtain ⟨negative', rank', hrank'⟩ := y
  simp only [ne_eq, zero, FiniteDouble.mk.injEq, key] at *
  cases negative with
  | false =>
    cases negative' with
    | false => exact ⟨rfl, by simpa using h⟩
    | true =>
      have hzero : rank' ≠ 0 := by simpa using hy
      have hsum : (rank : Int) = -rank' := by simpa using h
      omega
  | true =>
    cases negative' with
    | false =>
      have hzero : rank ≠ 0 := by simpa using hx
      have hsum : -(rank : Int) = rank' := by simpa using h
      omega
    | true => exact ⟨rfl, by simpa using h⟩

theorem signedUnits_eq_of_whole? {n : Int} (h : x.whole? = some n) :
    x.signedUnits = n * Double.unitsPerOne := by
  rw [whole?] at h
  split at h
  · rename_i hwhole
    have hmagnitude := Nat.div_mul_cancel (Nat.dvd_of_mod_eq_zero hwhole)
    obtain rfl := Option.some.inj h
    rw [signedUnits]
    split
    · rw [Int.neg_mul, ← Int.natCast_mul, hmagnitude]
    · rw [← Int.natCast_mul, hmagnitude]
  · cases h

/-- **Different numbers have different documents**, up to the sign of zero.  A number that is
written as an integer is equal to this integer, and any other one is written as itself. -/
theorem toJson_inj (hx : x ≠ zero true) (hy : y ≠ zero true) : x.toJson = y.toJson ↔ x = y := by
  refine ⟨fun h => ?_, congrArg _⟩
  have hwhole : x.whole? = y.whole? := by
    obtain ⟨n, hn, hnwhole⟩ := x.exists_toJson_eq
    obtain ⟨m, hm, hmwhole⟩ := y.exists_toJson_eq
    rw [hn, hm, Json.number.injEq] at h
    rw [← hnwhole, ← hmwhole, h]
  cases hxwhole : x.whole? with
  | some n =>
    refine eq_of_key_eq hx hy (key_eq_key_iff.2 ?_)
    rw [signedUnits_eq_of_whole? hxwhole, signedUnits_eq_of_whole? (hwhole.symm.trans hxwhole)]
  | none =>
    rw [toJson, toJson, ← hwhole, hxwhole] at h
    simpa using h

end FiniteDouble

/-! ## Values -/

namespace Operand

mutual

/-- Whether all numbers in a value are finite and none is negative zero, and all dates are whole
milliseconds outside of leap seconds. -/
def IsExact : Operand → Prop
  | .null | .bool _ | .text _ => True
  | .number x => ∃ y, x = .finite y ∧ y ≠ .zero true
  | .date t => t.IsWholeMillis
  | .list items => AreExact items

/-- Whether all of these values are exact. -/
def AreExact : List Operand → Prop
  | [] => True
  | x :: rest => x.IsExact ∧ AreExact rest

end

/-- A number is written as a number and as nothing else. -/
theorem toJson_number_ne {x : Double} (h : (number x).IsExact) {j : Json}
    (hj : ∀ n, j ≠ .number n) : (number x).toJson ≠ j := by
  obtain ⟨y, rfl, -⟩ := h
  obtain ⟨n, hn, -⟩ := y.exists_toJson_eq
  intro heq
  exact hj n (heq.symm.trans hn)

-- induction is on the first value; every value but a list has its document by itself

mutual

theorem eq_of_toJson_eq : ∀ {x y : Operand}, x.IsExact → y.IsExact → x.toJson = y.toJson → x = y
  | .null, y, _, hy, h => by
    cases y with
    | null => rfl
    | number n => exact absurd h.symm (toJson_number_ne hy (by simp [toJson]))
    | _ => simp [toJson] at h
  | .bool b, y, _, hy, h => by
    cases y with
    | bool b' => simpa [toJson] using h
    | number n => exact absurd h.symm (toJson_number_ne hy (by simp [toJson]))
    | _ => simp [toJson] at h
  | .number n, y, hx, hy, h => by
    cases y with
    | number n' =>
      obtain ⟨a, rfl, ha⟩ := hx
      obtain ⟨b, rfl, hb⟩ := hy
      rw [(FiniteDouble.toJson_inj ha hb).1 h]
    | _ => exact absurd h (toJson_number_ne hx (by simp [toJson]))
  | .text s, y, _, hy, h => by
    cases y with
    | text s' => simpa [toJson] using h
    | number n => exact absurd h.symm (toJson_number_ne hy (by simp [toJson]))
    | _ => simp [toJson] at h
  | .date t, y, hx, hy, h => by
    cases y with
    | date t' =>
      have htext : t.text = t'.text := by simpa [toJson] using h
      rw [(Instant.text_inj hx hy).1 htext]
    | number n => exact absurd h.symm (toJson_number_ne hy (by simp [toJson]))
    | _ => simp [toJson] at h
  | .list items, y, hx, hy, h => by
    cases y with
    | list items' =>
      have hitems : toItems items = toItems items' := by simpa [toJson] using h
      rw [eq_of_toItems_eq hx hy hitems]
    | number n => exact absurd h.symm (toJson_number_ne hy (by simp [toJson]))
    | _ => simp [toJson] at h

theorem eq_of_toItems_eq : ∀ {xs ys : List Operand}, AreExact xs → AreExact ys →
    toItems xs = toItems ys → xs = ys
  | [], [], _, _, _ => rfl
  | [], _ :: _, _, _, h | _ :: _, [], _, _, h => by simp [toItems] at h
  | x :: xs, y :: ys, hx, hy, h => by
    obtain ⟨hfirst, hrest⟩ := List.cons.inj h
    rw [eq_of_toJson_eq hx.1 hy.1 hfirst, eq_of_toItems_eq hx.2 hy.2 hrest]

end

/-- **Different values have different documents.** -/
theorem toJson_inj {x y : Operand} (hx : x.IsExact) (hy : y.IsExact) :
    x.toJson = y.toJson ↔ x = y :=
  ⟨eq_of_toJson_eq hx hy, congrArg _⟩

theorem toItems_inj {xs ys : List Operand} (hxs : AreExact xs) (hys : AreExact ys) :
    toItems xs = toItems ys ↔ xs = ys :=
  ⟨eq_of_toItems_eq hxs hys, congrArg _⟩

end Operand

/-! ## Tests -/

namespace Pattern

theorem toJson_inj {p q : Pattern} : p.toJson = q.toJson ↔ p = q := by
  refine ⟨fun h => ?_, congrArg _⟩
  obtain ⟨source, ignoreCase⟩ := p
  obtain ⟨source', ignoreCase'⟩ := q
  cases ignoreCase with
  | false =>
    cases ignoreCase' with
    | false => simpa [toJson] using h
    | true => simp [toJson] at h
  | true =>
    cases ignoreCase' with
    | false => simp [toJson] at h
    | true => simpa [toJson] using h

/-- A pattern is named as one. -/
theorem toJson_ne {members : List (String × Json)} (h : ∀ j, ("$regex", j) ∉ members)
    (p : Pattern) : p.toJson ≠ .object members := by
  intro heq
  refine h (.string p.source) ?_
  rw [← Json.object.inj heq]
  exact List.mem_append_right _ List.mem_cons_self

end Pattern

namespace Test

/-- Whether all values in a test are exact. -/
def IsExact : Test → Prop
  | .equals x | .differs x | .above x | .atLeast x | .below x | .atMost x => x.IsExact
  | .between lower upper => lower.IsExact ∧ upper.IsExact
  | .fits _ | .failsToFit _ | .isPresent _ => True
  | .oneOf items | .noneOf items => Operand.AreExact items

/-- **Different tests have different documents.** -/
theorem toJson_inj {t t' : Test} (ht : t.IsExact) (ht' : t'.IsExact) :
    t.toJson = t'.toJson ↔ t = t' := by
  refine ⟨fun h => ?_, congrArg _⟩
  cases t with
  | equals x | differs x | above x | atLeast x | below x | atMost x =>
    -- the names tell these tests apart, and what is left of the two documents is that of the values
    cases t' with
    | equals y | differs y | above y | atLeast y | below y | atMost y =>
      first
      | exact congrArg _ ((Operand.toJson_inj ht ht').1 (by simpa [toJson] using h))
      | simp [toJson] at h
    | fits p => exact absurd h.symm (p.toJson_ne (by simp))
    | _ => simp [toJson] at h
  | between lower upper =>
    cases t' with
    | between lower' upper' =>
      obtain ⟨hlower, hupper⟩ : lower.toJson = lower'.toJson ∧ upper.toJson = upper'.toJson := by
        simpa [toJson] using h
      rw [(Operand.toJson_inj ht.1 ht'.1).1 hlower, (Operand.toJson_inj ht.2 ht'.2).1 hupper]
    | fits p => exact absurd h.symm (p.toJson_ne (by simp))
    | _ => simp [toJson] at h
  | fits p =>
    cases t' with
    | fits q => rw [Pattern.toJson_inj.1 h]
    | _ => exact absurd h (p.toJson_ne (by simp))
  | failsToFit p =>
    cases t' with
    | failsToFit q =>
      have hpattern : p.toJson = q.toJson := by simpa [toJson] using h
      rw [Pattern.toJson_inj.1 hpattern]
    | fits q => exact absurd h.symm (q.toJson_ne (by simp))
    | _ => simp [toJson] at h
  | isPresent expected =>
    cases t' with
    | isPresent expected' => simpa [toJson] using h
    | fits p => exact absurd h.symm (p.toJson_ne (by simp))
    | _ => simp [toJson] at h
  | oneOf items | noneOf items =>
    cases t' with
    | oneOf items' | noneOf items' =>
      first
      | exact congrArg _ ((Operand.toItems_inj ht ht').1 (by simpa [toJson] using h))
      | simp [toJson] at h
    | fits p => exact absurd h.symm (p.toJson_ne (by simp))
    | _ => simp [toJson] at h

end Test

/-! ## Queries -/

namespace Query

mutual

/-- Whether all values in a query are exact. -/
def IsExact : Query → Prop
  | .everything => True
  | .all parts | .any parts => AreExact parts
  | .field _ test => test.IsExact

/-- Whether all values in these queries are exact. -/
def AreExact : List Query → Prop
  | [] => True
  | q :: rest => q.IsExact ∧ AreExact rest

end

/-- The document of a test is no list of documents, whatever its field is called. -/
theorem document_field_ne {path name : String} {test : Test} {items : List Json} :
    (field path test).document ≠ .object [(name, .array items)] := by
  obtain ⟨members, hmembers⟩ := test.exists_toJson_eq
  simp [document, hmembers]

mutual

theorem eq_of_document_eq : ∀ {q q' : Query}, q.IsExact → q'.IsExact →
    q.document = q'.document → q = q'
  | .everything, q', _, _, h => by
    cases q' with
    | everything => rfl
    | _ => simp [document] at h
  | .all parts, q', hq, hq', h => by
    cases q' with
    | all parts' =>
      have hparts : documents parts = documents parts' := by simpa [document] using h
      rw [eq_of_documents_eq hq hq' hparts]
    | field path test => exact absurd h.symm document_field_ne
    | _ => simp [document] at h
  | .any parts, q', hq, hq', h => by
    cases q' with
    | any parts' =>
      have hparts : documents parts = documents parts' := by simpa [document] using h
      rw [eq_of_documents_eq hq hq' hparts]
    | field path test => exact absurd h.symm document_field_ne
    | _ => simp [document] at h
  | .field path test, q', hq, hq', h => by
    cases q' with
    | field path' test' =>
      obtain ⟨rfl, htest⟩ : path = path' ∧ test.toJson = test'.toJson := by
        simpa [document] using h
      rw [(Test.toJson_inj hq hq').1 htest]
    | everything => simp [document] at h
    | all parts | any parts => exact absurd h document_field_ne

theorem eq_of_documents_eq : ∀ {parts parts' : List Query}, AreExact parts → AreExact parts' →
    documents parts = documents parts' → parts = parts'
  | [], [], _, _, _ => rfl
  | [], _ :: _, _, _, h | _ :: _, [], _, _, h => by simp [documents] at h
  | q :: rest, q' :: rest', hq, hq', h => by
    obtain ⟨hfirst, hrest⟩ := List.cons.inj h
    rw [eq_of_document_eq hq.1 hq'.1 hfirst, eq_of_documents_eq hq.2 hq'.2 hrest]

end

/-- **Different queries have different documents.**  Take two queries, however nested, in which all
numbers are finite and none is negative zero, and all dates are whole milliseconds outside of leap
seconds.  If they have the same document they are the same query, whatever their fields are called.
-/
theorem document_inj {q q' : Query} (hq : q.IsExact) (hq' : q'.IsExact) :
    q.document = q'.document ↔ q = q' :=
  ⟨eq_of_document_eq hq hq', congrArg _⟩

/-- A field that is called like the connective above it, and a range that begins like the test of one
end: the values are positive zero, which is written as an integer, and a date. -/
theorem document_inj_names_in_common :
    (Query.any [.field "$or" (.atLeast (.number (.finite (.zero false))))]).IsExact ∧
    (Query.any [.field "$or" (.between (.number (.finite (.zero false)))
      (.date ⟨1717299000, 250000000, by decide, by decide⟩))]).IsExact ∧
    (Query.any [.field "$or" (.atLeast (.number (.finite (.zero false))))]).document ≠
      (Query.any [.field "$or" (.between (.number (.finite (.zero false)))
        (.date ⟨1717299000, 250000000, by decide, by decide⟩))]).document := by
  have hzero : (Operand.number (.finite (.zero false))).IsExact := ⟨_, rfl, by decide⟩
  have hmillis : Instant.IsWholeMillis ⟨1717299000, 250000000, by decide, by decide⟩ :=
    ⟨by decide, by decide⟩
  have hleft : (Query.any [.field "$or" (.atLeast (.number (.finite (.zero false))))]).IsExact :=
    ⟨hzero, trivial⟩
  have hright : (Query.any [.field "$or" (.between (.number (.finite (.zero false)))
      (.date ⟨1717299000, 250000000, by decide, by decide⟩))]).IsExact :=
    ⟨⟨hzero, hmillis⟩, trivial⟩
  refine ⟨hleft, hright, ?_⟩
  rw [ne_eq, document_inj hleft hright]
  simp

end Query
end RecordFilter
