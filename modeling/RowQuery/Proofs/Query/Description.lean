import RowQuery.Proofs.Query.Literal
import RowQuery.Proofs.Text.Delimited

/-!
Descriptions of filters can be read back.

* `Term.shown`, `Clause.shown`: what the description of a term or of a clause shows of it.
* `Clause.delimits_description`: the description of a clause shows this, and where it ends.
* `Clause.Derived`: what is shown of a clause is all that its regular expression is made of.
* `Query.accepts_eq_of_description_eq`: filters with one description look for the same in the same places.
-/
namespace RowQuery

open Text (Delimits)

/-! ## Terms -/

namespace Term

/-- What the description of a term's pattern shows. -/
def shown (term : Term) : PatternKind × String := (term.kind, term.text)

/-- The label of a kind ends at the parenthesis behind it. -/
theorem label_append_inj {kind kind' : PatternKind} {r r' : List Char}
    (h : kind.label.toList ++ '(' :: r = kind'.label.toList ++ '(' :: r') : kind = kind' ∧ r = r' := by
  cases kind <;> cases kind' <;> simp [PatternKind.label] at h ⊢ <;> exact h

theorem toList_patternDescription (term : Term) : term.patternDescription.toList =
    term.kind.label.toList ++ '(' :: (Text.quote term.text.toList ++ [')']) := by
  simp [patternDescription, Text.quoted, String.toList_append]

theorem delimits_patternDescription : Delimits (fun term : Term => term.patternDescription.toList) shown := by
  intro t u r r' h
  simp only [toList_patternDescription, List.append_assoc, List.cons_append] at h
  obtain ⟨hkind, hrest⟩ := label_append_inj h
  obtain ⟨htext, hend⟩ := Text.delimits_quote _ _ _ _ hrest
  exact ⟨Prod.ext hkind (String.toList_inj.mp htext), (List.cons.inj hend).2⟩

/-- The description of a pattern begins with the label of its kind. -/
theorem patternDescription_append_ne {c : Char} (hc : c ∉ ['W', 'Q', 'R']) (term : Term) (r s : List Char) :
    term.patternDescription.toList ++ r ≠ c :: s := by
  intro h
  have hlabel : ∀ kind : PatternKind, ∃ d t, kind.label.toList = d :: t ∧ d ∈ ['W', 'Q', 'R'] := by
    intro kind
    cases kind with
    | word => exact ⟨'W', _, rfl, by decide⟩
    | quote => exact ⟨'Q', _, rfl, by decide⟩
    | regex => exact ⟨'R', _, rfl, by decide⟩
  obtain ⟨d, t, hd, hmem⟩ := hlabel term.kind
  rw [toList_patternDescription, hd] at h
  exact hc ((List.cons.inj h).1 ▸ hmem)

end Term

/-! ## Clauses -/

/-- The description of patterns that are looked for in a target. -/
def Target.describe (patterns : List Char) : Target → List Char
  | .row => ['R', 'O', 'W', '('] ++ (patterns ++ [')'])
  | .column name offset =>
    ['C', 'O', 'L', 'U', 'M', 'N', '('] ++
      (Text.quote name.toList ++ '=' :: (Nat.toDigits 10 offset ++ [','] ++ (patterns ++ [')'])))

namespace Clause

theorem describePatterns_of_length_ne {terms : List Term} (h : terms.length ≠ 1) :
    (describePatterns terms).toList =
      ['T', 'H', 'E', 'N', '('] ++ Text.items (fun term : Term => term.patternDescription.toList) terms := by
  cases terms with
  | nil => rfl
  | cons t terms =>
    cases terms with
    | nil => exact absurd rfl h
    | cons u terms =>
      simp [describePatterns, Text.items, String.toList_append, String.toList_intercalate, Function.comp_def]

/-- The description of one pattern is not that of several in their order. -/
theorem delimits_describePatterns :
    Delimits (fun terms => (describePatterns terms).toList) (List.map Term.shown) := by
  have hitems : Delimits (Text.items fun term : Term => term.patternDescription.toList)
      (List.map Term.shown) :=
    Text.delimits_items Term.delimits_patternDescription
      (Term.patternDescription_append_ne (by decide))
  have hthen (term : Term) (r s : List Char) : term.patternDescription.toList ++ r ≠ 'T' :: s :=
    Term.patternDescription_append_ne (by decide) term r s
  intro ts us r r' h
  by_cases ht : ts.length = 1
  · obtain ⟨t, rfl⟩ := List.length_eq_one_iff.mp ht
    by_cases hu : us.length = 1
    · obtain ⟨u, rfl⟩ := List.length_eq_one_iff.mp hu
      obtain ⟨hshown, hrest⟩ := Term.delimits_patternDescription t u r r' h
      exact ⟨congrArg (fun shown => [shown]) hshown, hrest⟩
    · simp only [describePatterns_of_length_ne hu] at h
      exact absurd h (hthen t r _)
  · by_cases hu : us.length = 1
    · obtain ⟨u, rfl⟩ := List.length_eq_one_iff.mp hu
      simp only [describePatterns_of_length_ne ht] at h
      exact absurd h.symm (hthen u r' _)
    · simp only [describePatterns_of_length_ne ht, describePatterns_of_length_ne hu, List.append_assoc] at h
      exact hitems ts us r r' (List.append_cancel_left h)

theorem delimits_describe :
    Delimits (fun p : Target × List Term => p.1.describe (describePatterns p.2).toList)
      fun p => (p.1, p.2.map Term.shown) := by
  have hpatterns := delimits_describePatterns.between [] [')']
  have hoffset : Delimits (fun n => Nat.toDigits 10 n ++ [',']) id :=
    Text.delimits_numeral (by decide) (by decide) (by decide)
  rintro ⟨target, ts⟩ ⟨target', us⟩ r r' h
  cases target with
  | row =>
    cases target' with
    | row =>
      simp only [Target.describe, List.append_assoc] at h
      obtain ⟨hshown, hrest⟩ := hpatterns ts us r r' (by simpa using List.append_cancel_left h)
      exact ⟨Prod.ext rfl hshown, hrest⟩
    | column name offset => cases (List.cons.inj h).1
  | column name offset =>
    cases target' with
    | row => cases (List.cons.inj h).1
    | column name' offset' =>
      simp only [Target.describe, List.append_assoc, List.cons_append, List.nil_append, List.cons.injEq,
        true_and] at h
      obtain ⟨hname, hbehind⟩ := Text.delimits_quote _ _ _ _ h
      obtain ⟨hnumber, hlist⟩ := hoffset offset offset' _ _ (by simpa using (List.cons.inj hbehind).2)
      obtain ⟨hshown, hrest⟩ := hpatterns ts us r r' (by simpa using hlist)
      obtain rfl : name = name' := String.toList_inj.mp hname
      obtain rfl : offset = offset' := hnumber
      exact ⟨Prod.ext rfl hshown, hrest⟩

/-- What the description of a clause shows. -/
def shown (clause : Clause) : Bool × Target × List (PatternKind × String) :=
  (clause.negate, clause.target, clause.terms.map Term.shown)

theorem toList_description (clause : Clause) : clause.description.toList =
    let form := clause.target.describe (describePatterns clause.terms).toList
    if clause.negate then ['N', 'O', 'T', '('] ++ (form ++ [')']) else form := by
  unfold description
  cases clause.target with
  | row => cases clause.negate <;> simp [Target.describe, String.toList_append]
  | column name offset =>
    cases clause.negate <;>
      simp [Target.describe, Text.quoted, String.toList_append, Nat.toList_repr]

theorem describe_append_ne {c : Char} (hc : c ∉ ['R', 'C']) (target : Target) (patterns r s : List Char) :
    target.describe patterns ++ r ≠ c :: s := by
  intro h
  cases target with
  | row => exact hc ((List.cons.inj h).1 ▸ by decide)
  | column name offset => exact hc ((List.cons.inj h).1 ▸ by decide)

theorem delimits_description : Delimits (fun clause : Clause => clause.description.toList) shown := by
  have hform := delimits_describe.comap fun clause : Clause => (clause.target, clause.terms)
  intro c d r r' h
  simp only [toList_description] at h
  cases hc : c.negate with
  | true =>
    cases hd : d.negate with
    | true =>
      simp only [hc, hd, if_true] at h
      obtain ⟨hshown, hrest⟩ := hform.between ['N', 'O', 'T', '('] [')'] c d r r' h
      exact ⟨Prod.ext (hc.trans hd.symm) hshown, hrest⟩
    | false =>
      simp only [hc, hd, if_true, Bool.false_eq_true, if_false] at h
      exact absurd h.symm (describe_append_ne (by decide) _ _ _ _)
  | false =>
    cases hd : d.negate with
    | true =>
      simp only [hc, hd, if_true, Bool.false_eq_true, if_false] at h
      exact absurd h (describe_append_ne (by decide) _ _ _ _)
    | false =>
      simp only [hc, hd, Bool.false_eq_true, if_false] at h
      obtain ⟨hshown, hrest⟩ := hform c d r r' h
      exact ⟨Prod.ext (hc.trans hd.symm) hshown, hrest⟩

/-- The description of a clause begins with what it looks at, or with its negation. -/
theorem description_append_ne (clause : Clause) (r s : List Char) :
    clause.description.toList ++ r ≠ ')' :: s := by
  rw [toList_description]
  cases clause.negate with
  | true => exact fun h => by cases (List.cons.inj h).1
  | false => exact describe_append_ne (by decide) _ _ _ _

end Clause

/-- A description shows every clause of a filter. -/
theorem Filter.shown_of_description_eq {clauses others : List Clause}
    (h : (allOf clauses).description = (allOf others).description) :
    clauses.map Clause.shown = others.map Clause.shown := by
  have hitems := Text.delimits_items Clause.delimits_description Clause.description_append_ne
  have hform (clauses : List Clause) : (allOf clauses).description.toList =
      ['A', 'N', 'D', '('] ++ (Text.items (fun clause : Clause => clause.description.toList) clauses ++ []) := by
    simp [description, Text.items, String.toList_append, String.toList_intercalate, Function.comp_def]
  refine (hitems.between ['A', 'N', 'D', '('] []).shown_eq ?_
  rw [← hform, ← hform, h]

namespace Query

variable {limit : Regex.Limit} {directory : Directory}

/-! ## What is made of the parts that are shown -/

/-- The pattern of a term of which this is shown, about the whole row or about a column. -/
def patternOf (bare : Bool) (shown : PatternKind × String) : String :=
  derive ⟨if bare then none else some "", shown.1, shown.2, false⟩

/-- Of its column, a pattern only depends on whether there is one. -/
theorem derive_eq_patternOf (term : Term) : derive term = patternOf term.isBare term.shown := by
  obtain ⟨column, kind, text, negate⟩ := term
  cases column <;> rfl

theorem deriveAll_congr {ts us : List Term} (h : ts.map derive = us.map derive) :
    deriveAll ts = deriveAll us := by
  have hlength : ts.length = us.length := by simpa using congrArg List.length h
  by_cases hone : ts.length = 1
  · obtain ⟨t, rfl⟩ := List.length_eq_one_iff.mp hone
    obtain ⟨u, rfl⟩ := List.length_eq_one_iff.mp (hlength.symm.trans hone)
    exact List.singleton_inj.mp h
  · have hjoined (vs : List Term) (hvs : vs.length ≠ 1) : deriveAll vs =
        String.ofList (Regex.joined ((vs.map derive).map String.toList)) := by
      rw [deriveAll_eq_joined (by rintro t rfl; exact hvs rfl), List.map_map]
      rfl
    rw [hjoined ts hone, hjoined us (hlength ▸ hone), h]

end Query

/-- What a clause is made of: the patterns of its terms, which are about the whole row just if the clause is. -/
structure Clause.Derived (limit : Regex.Limit) (clause : Clause) : Prop where
  regex : Regex.compile limit (Query.deriveAll clause.terms) = .ok clause.regex
  bare : ∀ term ∈ clause.terms, term.isBare = (clause.target == .row)

namespace Query

theorem derived_of_compileTerm {term : Term} {clause : Clause}
    (h : compileTerm limit directory term = .ok clause) : clause.Derived limit := by
  have hterms : clause.terms = [term] := terms_of_compileTerm h
  obtain ⟨hregex, htarget, -⟩ := of_compileTerm h
  refine ⟨by rw [hterms]; exact hregex, ?_⟩
  rw [hterms]
  intro t ht
  obtain rfl : t = term := List.mem_singleton.mp ht
  obtain ⟨hrow, hcolumn⟩ := target_eq_ok_iff.mp htarget
  cases hkey : t.column with
  | none => simp [Term.isBare, hkey, hrow hkey]
  | some key =>
    obtain ⟨column, -, hlook⟩ := hcolumn key hkey
    simp [Term.isBare, hkey, hlook]

theorem derived_of_compileOrdered {terms : List Term} {clause : Clause}
    (hbare : ∀ term ∈ terms, term.isBare = true) (h : compileOrdered limit terms = .ok clause) :
    clause.Derived limit := by
  have hterms : clause.terms = terms := terms_of_compileOrdered h
  obtain ⟨hregex, htarget, -⟩ := of_compileOrdered h
  refine ⟨by rw [hterms]; exact hregex, ?_⟩
  rw [hterms, htarget]
  exact hbare

theorem derived_of_compileWithin {terms : List Term} {clauses : List Clause}
    (h : compileWithin limit directory terms = .ok clauses) : ∀ clause ∈ clauses, clause.Derived limit := by
  intro clause hclause
  obtain ⟨conjunct, hconjunct, hcompile⟩ := exists_conjunct h hclause
  rcases mem_conjuncts.mp hconjunct with ⟨term, -, -, rfl⟩ | ⟨-, rfl⟩
  · exact derived_of_compileTerm hcompile
  · refine derived_of_compileOrdered (fun term hterm => ?_) hcompile
    have hordered : term.isOrdered = true := (List.mem_filter.mp hterm).2
    rw [Term.isBare, (Term.isOrdered_iff.mp hordered).1]
    rfl

end Query

namespace Clause

variable {limit : Regex.Limit}

theorem Derived.map_derive {clause : Clause} (h : clause.Derived limit) :
    clause.terms.map Query.derive =
      (clause.terms.map Term.shown).map (Query.patternOf (clause.target == .row)) := by
  rw [List.map_map]
  refine List.map_congr_left fun term hterm => ?_
  rw [Query.derive_eq_patternOf, h.bare term hterm]
  rfl

/-- Clauses that show the same look for the same. -/
theorem Derived.regex_eq {c d : Clause} (hc : c.Derived limit) (hd : d.Derived limit)
    (h : c.shown = d.shown) : c.regex = d.regex := by
  obtain ⟨-, htarget, hterms⟩ : c.negate = d.negate ∧ c.target = d.target ∧
      c.terms.map Term.shown = d.terms.map Term.shown := by
    simpa only [shown, Prod.mk.injEq] using h
  have hderive : c.terms.map Query.derive = d.terms.map Query.derive := by
    rw [hc.map_derive, hd.map_derive, htarget, hterms]
  have hregex := hc.regex
  rw [Query.deriveAll_congr hderive, hd.regex] at hregex
  exact (Except.ok.inj hregex).symm

/-- What a clause looks for, and where. -/
def look (clause : Clause) : Regex × Target × Bool := (clause.regex, clause.target, clause.negate)

theorem Derived.look_eq {c d : Clause} (hc : c.Derived limit) (hd : d.Derived limit)
    (h : c.shown = d.shown) : c.look = d.look := by
  have hregex : c.regex = d.regex := hc.regex_eq hd h
  have htarget : c.target = d.target := congrArg (fun shown => shown.2.1) h
  have hnegate : c.negate = d.negate := congrArg Prod.fst h
  rw [look, look, hregex, htarget, hnegate]

theorem map_look_eq {cs ds : List Clause} (hc : ∀ c ∈ cs, c.Derived limit) (hd : ∀ d ∈ ds, d.Derived limit)
    (h : cs.map shown = ds.map shown) : cs.map look = ds.map look := by
  induction cs generalizing ds with
  | nil =>
    obtain rfl : ds = [] := List.map_eq_nil_iff.mp h.symm
    rfl
  | cons c cs ih =>
    obtain ⟨d, ds, rfl, hshown, hrest⟩ := List.map_eq_cons_iff.mp h.symm
    rw [List.forall_mem_cons] at hc hd
    rw [List.map_cons, List.map_cons, hc.1.look_eq hd.1 hshown.symm, ih hc.2 hd.2 hrest.symm]

theorem holds_eq_of_look_eq {c d : Clause} (h : c.look = d.look) (data : RowData) :
    c.holds data = d.holds data := by
  simp only [look, Prod.mk.injEq] at h
  rw [holds, holds, h.1, h.2.1, h.2.2]

end Clause

theorem Filter.accepts_eq_of_map_look_eq {cs ds : List Clause} (h : cs.map Clause.look = ds.map Clause.look)
    (data : RowData) : (allOf cs).accepts data = (allOf ds).accepts data := by
  simp only [accepts]
  induction cs generalizing ds with
  | nil =>
    obtain rfl : ds = [] := List.map_eq_nil_iff.mp h.symm
    rfl
  | cons c cs ih =>
    obtain ⟨d, ds, rfl, hlook, hrest⟩ := List.map_eq_cons_iff.mp h.symm
    rw [List.all_cons, List.all_cons, Clause.holds_eq_of_look_eq hlook.symm data, ih hrest.symm]

namespace Query

variable {directory : Directory} {ts us : List Term} {cs ds : List Clause}

/-- Of two lists of terms that compile, if the filters have one description, then their clauses look for the
same patterns in the same places, they stem from the same texts, and the filters accept the same rows. -/
theorem accepts_eq_of_description_eq (hc : compileTerms directory ts = .ok cs)
    (hd : compileTerms directory us = .ok ds)
    (h : (Filter.allOf cs).description = (Filter.allOf ds).description) :
    cs.map (fun c => (c.regex.source, c.target, c.negate)) =
        ds.map (fun d => (d.regex.source, d.target, d.negate)) ∧
      cs.map (fun c => c.terms.map fun term => (term.kind, term.text)) =
        ds.map (fun d => d.terms.map fun term => (term.kind, term.text)) ∧
      ∀ data, (Filter.allOf cs).accepts data = (Filter.allOf ds).accepts data := by
  have hshown : cs.map Clause.shown = ds.map Clause.shown := Filter.shown_of_description_eq h
  have hlook : cs.map Clause.look = ds.map Clause.look :=
    Clause.map_look_eq (derived_of_compileWithin hc) (derived_of_compileWithin hd) hshown
  refine ⟨?_, ?_, Filter.accepts_eq_of_map_look_eq hlook⟩
  · have hsource := congrArg (List.map fun look : Regex × Target × Bool => (look.1.source, look.2)) hlook
    rw [List.map_map, List.map_map] at hsource
    exact hsource
  · have hterms := congrArg (List.map fun shown : Bool × Target × List (PatternKind × String) => shown.2.2) hshown
    rw [List.map_map, List.map_map] at hterms
    exact hterms

/-- The filters of `a :age NOT "\"),ROW(\" "b"` and of `a "b" :2 NOT "\"),ROW(\"` have one description. -/
theorem accepts_eq_of_age_or_index : ∃ directory cs ds,
    Directory.build [.column "name" none none, .column "age" none (some 2)] = .ok directory ∧
    compileTerms directory [⟨none, .word, "a", false⟩, ⟨some "age", .quote, "\"),ROW(\\", true⟩,
      ⟨none, .quote, "b", false⟩] = .ok cs ∧
    compileTerms directory [⟨none, .word, "a", false⟩, ⟨none, .quote, "b", false⟩,
      ⟨some "2", .quote, "\"),ROW(\\", true⟩] = .ok ds ∧
    (Filter.allOf cs).description = (Filter.allOf ds).description ∧
    cs.map (fun c => (c.regex.source, c.target, c.negate)) =
      ds.map (fun d => (d.regex.source, d.target, d.negate)) := by
  let directory : Directory := ⟨[⟨"name", none, none, 0, 1⟩, ⟨"age", none, some 2, 1, 2⟩]⟩
  let ts : List Term := [⟨none, .word, "a", false⟩, ⟨some "age", .quote, "\"),ROW(\\", true⟩,
    ⟨none, .quote, "b", false⟩]
  let us : List Term := [⟨none, .word, "a", false⟩, ⟨none, .quote, "b", false⟩,
    ⟨some "2", .quote, "\"),ROW(\\", true⟩]
  have hdirectory : Directory.build [.column "name" none none, .column "age" none (some 2)] = .ok directory := rfl
  have hsame : ((compileTerms directory ts).map fun cs => (Filter.allOf cs).description).toOption =
      ((compileTerms directory us).map fun ds => (Filter.allOf ds).description).toOption := by decide +kernel
  have hok : (compileTerms directory ts).isOk = true := by decide +kernel
  have hok' : (compileTerms directory us).isOk = true := by decide +kernel
  cases hc : compileTerms directory ts with
  | error e => simp [hc, Except.isOk, Except.toBool] at hok
  | ok cs =>
    cases hd : compileTerms directory us with
    | error e => simp [hd, Except.isOk, Except.toBool] at hok'
    | ok ds =>
      rw [hc, hd] at hsame
      have h := Option.some.inj hsame
      exact ⟨directory, cs, ds, hdirectory, hc, hd, h, (accepts_eq_of_description_eq hc hd h).1⟩

end Query
end RowQuery
