import Mathlib.Data.Bool.Basic
import RecordFilter.Proofs.Filter.Session
import RecordFilter.Proofs.Query.Fault
import RecordFilter.Proofs.Query.Saying

/-!
# One row more

A row that is added to a group asks for more below *all*, and offers more below *any*.  What the
whole filter finds moves the same way, whatever connectives stand above the group, as long as the
group constrained something before.  A group that constrains nothing is left out where it stands, and
its first row may bring it in: then nothing of the kind is true.

* `Group.said_addRow` — what a group says with one row more.
* `Group.le_said_addRow`, `Group.said_addRow_le` — in which way that moves.
* `Filter.exchanged_addCondition` — adding a row to a group exchanges this group, and no other.
* `Filter.accepts_addCondition` — what a filter finds with one row more.
-/

set_option autoImplicit false

namespace RecordFilter

namespace Group

/-! ## A group with one row more -/

/-- A group with one row more, behind its other rows. -/
def addRow (g : Group) (c : Condition) : Group := { g with conditions := g.conditions ++ [c] }

section

variable {row : Condition → Option Bool} {g : Group}

/-- **A row that is added adds what it says to what the group says.** -/
theorem said_addRow (c : Condition) :
    (g.addRow c).said row = Option.merge g.connective.both (row c) (g.said row) := by
  obtain ⟨id, connective, conditions, groups⟩ := g
  rw [addRow, said_eq, said_eq, ← Connective.answer?_cons]
  refine Connective.answer?_perm ?_
  simp only [List.map_append, List.map_cons, List.map_nil, List.append_assoc, List.singleton_append]
  exact List.perm_middle

/-- Below *all*, a group that says something does not rise. -/
theorem said_addRow_le (hsaid : g.said row ≠ none) (hall : g.connective = .all) (c : Condition) :
    Option.Rel (· ≤ ·) ((g.addRow c).said row) (g.said row) := by
  obtain ⟨answer, hanswer⟩ := Option.ne_none_iff_exists'.1 hsaid
  rw [said_addRow, hanswer, hall]
  rcases row c with _ | own
  · exact .some (Bool.le_refl answer)
  · exact .some (Bool.and_le_right own answer)

/-- Below *any*, a group that says something does not sink. -/
theorem le_said_addRow (hsaid : g.said row ≠ none) (hany : g.connective = .any) (c : Condition) :
    Option.Rel (· ≤ ·) (g.said row) ((g.addRow c).said row) := by
  obtain ⟨answer, hanswer⟩ := Option.ne_none_iff_exists'.1 hsaid
  rw [said_addRow, hanswer, hany]
  rcases row c with _ | own
  · exact .some (Bool.le_refl answer)
  · exact .some (Bool.right_le_or own answer)

end

/-- A group that compiles and constrains something says something of every record. -/
theorem said_ne_none {settings : Settings} {base : String} {g : Group} {found : Noted Query}
    (h : g.query settings base = .ok found) (hconstrains : ¬ g.ConstrainsNothing settings base)
    (record : Json) : g.said (Condition.said settings base record) ≠ none := by
  rw [← answer?_of_query record h, ne_eq, Query.answer?_eq_none_iff]
  intro hnothing
  apply hconstrains
  rw [ConstrainsNothing, h]
  exact congrArg Except.ok hnothing

end Group

namespace Filter

/-! ## A filter with one row more -/

variable {f : Filter} {g : Group}

/-- **Adding a row to a group exchanges this group**, without a note, where no two groups have the
same id. -/
theorem exchanged_addCondition (hids : f.groupIds.Nodup) (hg : g ∈ Group.subgroupsOf f.groups)
    (c : Condition) :
    ∃ left, f.addCondition g.id c = ⟨⟨left, f.connective⟩, []⟩ ∧
      Group.Exchanged g (g.addRow c) f.groups left := by
  obtain ⟨left, hleft, hexchanged⟩ :=
    Group.exchanged_of_mem_subgroupsOf hids hg fun g => g.addRow c
  refine ⟨left, ?_, hexchanged⟩
  show f.withGroups (Group.updateFirstIn? g.id (fun g => g.addRow c) f.groups) _ = _
  rw [hleft]
  rfl

theorem mem_rows_of_exchanged {c : Condition} {left : List Group}
    (h : Group.Exchanged g (g.addRow c) f.groups left) (d : Condition) :
    d ∈ Filter.rows ⟨left, f.connective⟩ ↔ d ∈ f.rows ∨ d = c := by
  obtain ⟨before, after, hgroups, hleft⟩ := h.exists_rowsOf
  obtain ⟨id, connective, conditions, groups⟩ := g
  rw [rows, rows, hgroups, hleft]
  simp only [Group.addRow, Group.rows, List.mem_append, List.mem_singleton]
  tauto

/-- A group of a filter that compiles compiles too. -/
theorem exists_query_of_exchanged {settings : Settings} {base : String} {new : Group}
    {left : List Group} {found : Noted Query} (h : Group.Exchanged g new f.groups left)
    (hfound : f.query settings = .ok found) : ∃ own, g.query settings base = .ok own := by
  obtain ⟨before, after, hgroups, -⟩ := h.exists_rowsOf
  rw [OffCalendar.exists_ok_iff, Group.query_eq_error_iff]
  rintro ⟨c, hc, hasks⟩
  have herror : f.query settings = .error .offCalendar :=
    query_eq_error_iff.2 ⟨c, by simp [rows, hgroups, hc], hasks⟩
  rw [hfound] at herror
  cases herror

/-- **A row more moves what a filter finds the way its group says.**  Where no two groups have the
same id, the row is added to the group it is meant for, and the filter compiles when it did before
and the row does.  If the group constrained something and asks for all of its parts, every record
that is found afterwards was found before; if it asks for any of them, every record that was found
before is found afterwards. -/
theorem accepts_addCondition (settings : Settings) (hids : f.groupIds.Nodup)
    (hg : g ∈ Group.subgroupsOf f.groups)
    (hconstrains : ¬ g.ConstrainsNothing settings settings.options.fieldBase) (c : Condition) :
    (∃ left, f.addCondition g.id c = ⟨⟨left, f.connective⟩, []⟩ ∧
      Group.Exchanged g (g.addRow c) f.groups left) ∧
    ((∃ after, (f.addCondition g.id c).value.query settings = .ok after) ↔
      (∃ before, f.query settings = .ok before) ∧
        ∃ own, c.query settings settings.options.fieldBase = .ok own) ∧
    ∀ before after : Noted Query, f.query settings = .ok before →
      (f.addCondition g.id c).value.query settings = .ok after → ∀ record : Json,
        (g.connective = .all → after.value.accepts record = true →
          before.value.accepts record = true) ∧
        (g.connective = .any → before.value.accepts record = true →
          after.value.accepts record = true) := by
  obtain ⟨left, hadd, hexchanged⟩ := exchanged_addCondition hids hg c
  refine ⟨⟨left, hadd, hexchanged⟩, ?_, ?_⟩
  · rw [hadd]
    simp only [OffCalendar.exists_ok_iff, query_eq_error_iff, Condition.query_eq_error_iff,
      mem_rows_of_exchanged hexchanged]
    constructor
    · intro h
      exact ⟨fun ⟨d, hd, hasks⟩ => h ⟨d, .inl hd, hasks⟩, fun hasks => h ⟨c, .inr rfl, hasks⟩⟩
    · rintro ⟨hrows, hrow⟩ ⟨d, hd | rfl, hasks⟩
      · exact hrows ⟨d, hd, hasks⟩
      · exact hrow hasks
  · intro before after hbefore hafter record
    rw [hadd] at hafter
    obtain ⟨own, hown⟩ := exists_query_of_exchanged hexchanged hbefore
    have hsaid := Group.said_ne_none hown hconstrains record
    rw [Query.accepts_eq_getD, Query.accepts_eq_getD, answer?_of_query record hbefore,
      answer?_of_query record hafter]
    constructor
    · intro hall
      exact Connective.getD_of_rel (rel_said Connective.carriesOver_le.flip f.connective hexchanged
        (Group.said_addRow_le hsaid hall c))
    · intro hany
      exact Connective.getD_of_rel (rel_said Connective.carriesOver_le f.connective hexchanged
        (Group.le_said_addRow hsaid hany c))

/-- A group with *all*, below one with *any*, gets a second row, and less is found. -/
theorem accepts_addCondition_below_any :
    (groupIds ⟨[⟨"a", .any, [⟨"1", "vip", .known .isTrue, .nothing⟩],
      [⟨"b", .all, [⟨"2", "new", .known .isTrue, .nothing⟩], []⟩]⟩], .all⟩).Nodup ∧
    ⟨"b", .all, [⟨"2", "new", .known .isTrue, .nothing⟩], []⟩ ∈ Group.subgroupsOf
      [⟨"a", .any, [⟨"1", "vip", .known .isTrue, .nothing⟩],
        [⟨"b", .all, [⟨"2", "new", .known .isTrue, .nothing⟩], []⟩]⟩] ∧
    ¬ Group.ConstrainsNothing .atEpoch ""
      ⟨"b", .all, [⟨"2", "new", .known .isTrue, .nothing⟩], []⟩ ∧
    ∃ before after : Noted Query,
      query .atEpoch ⟨[⟨"a", .any, [⟨"1", "vip", .known .isTrue, .nothing⟩],
        [⟨"b", .all, [⟨"2", "new", .known .isTrue, .nothing⟩], []⟩]⟩], .all⟩ = .ok before ∧
      (addCondition ⟨[⟨"a", .any, [⟨"1", "vip", .known .isTrue, .nothing⟩],
        [⟨"b", .all, [⟨"2", "new", .known .isTrue, .nothing⟩], []⟩]⟩], .all⟩ "b"
        ⟨"3", "paid", .known .isTrue, .nothing⟩).value.query .atEpoch = .ok after ∧
      ∀ record : Json, after.value.accepts record = true → before.value.accepts record = true := by
  have hids : (groupIds ⟨[⟨"a", .any, [⟨"1", "vip", .known .isTrue, .nothing⟩],
      [⟨"b", .all, [⟨"2", "new", .known .isTrue, .nothing⟩], []⟩]⟩], .all⟩).Nodup := by decide
  have hg : ⟨"b", .all, [⟨"2", "new", .known .isTrue, .nothing⟩], []⟩ ∈ Group.subgroupsOf
      [⟨"a", .any, [⟨"1", "vip", .known .isTrue, .nothing⟩],
        [⟨"b", .all, [⟨"2", "new", .known .isTrue, .nothing⟩], []⟩]⟩] := by
    simp [Group.subgroupsOf, Group.subgroups]
  have hconstrains : ¬ Group.ConstrainsNothing .atEpoch ""
      ⟨"b", .all, [⟨"2", "new", .known .isTrue, .nothing⟩], []⟩ := by
    intro h
    cases Except.ok.inj h
  obtain ⟨-, -, haccepts⟩ := accepts_addCondition .atEpoch hids hg hconstrains
    ⟨"3", "paid", .known .isTrue, .nothing⟩
  exact ⟨hids, hg, hconstrains, _, _, rfl, rfl, fun record => (haccepts _ _ rfl rfl record).1 rfl⟩

/-- A group without rows is left out below *any*.  Its first row brings it in, and more is found,
although the group has *all*. -/
example :
    (query .atEpoch ⟨[⟨"a", .all, [], []⟩,
        ⟨"b", .all, [⟨"1", "vip", .known .isTrue, .nothing⟩], []⟩], .any⟩).map
      (fun before => before.value.accepts (.object [("new", .bool true)])) = .ok false ∧
    ((addCondition ⟨[⟨"a", .all, [], []⟩,
        ⟨"b", .all, [⟨"1", "vip", .known .isTrue, .nothing⟩], []⟩], .any⟩ "a"
        ⟨"2", "new", .known .isTrue, .nothing⟩).value.query .atEpoch).map
      (fun after => after.value.accepts (.object [("new", .bool true)])) = .ok true :=
  ⟨rfl, rfl⟩

end Filter
end RecordFilter
