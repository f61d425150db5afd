import NameAssignment.Proofs.Batches
import NameAssignment.Proofs.Faithfulness

/-! The placeholders of a template, as it is checked and as it is rendered. Rendering meets every
block with a number in it. The check reads on behind the closing brace after each opening one, so a
block is overlooked if an opening brace before it is still open; rendering leaves such a block as it
is when no name has its number. -/
namespace NameAssignment.Template

variable {names : List String} {inside after before text : List Char} {number : Nat}

/-- The characters of a block. -/
def block (inside : List Char) : List Char := openBrace :: (inside ++ [closeBrace])

/-- A block with a number stands in a text behind `before`. -/
def Stands (text before : List Char) (number : Nat) : Prop :=
  ∃ inside after, text = before ++ block inside ++ after ∧ index? inside = some number

/-- An opening brace has no closing brace behind it. -/
def Covered (before : List Char) : Prop :=
  ∃ outer inner, before = outer ++ openBrace :: inner ∧ closeBrace ∉ inner

/-- Rendering leaves a block with a number as it is, because no name has the number. -/
def Leaves (names : List String) (text : List Char) (number : Nat) : Prop :=
  names.length ≤ number ∧ ∃ before inside after, text = before ++ block inside ++ after ∧
    index? inside = some number ∧
    renderChars names text = renderChars names before ++ block inside ++ renderChars names after

/-! ### Blocks and braces -/

theorem eq_plus_or_mem_dropPlus (listed : c ∈ inside) : c = '+' ∨ c ∈ dropPlus inside := by
  unfold dropPlus
  split
  · exact List.mem_cons.mp listed
  · exact .inr listed

/-- There is no brace inside a block with a number. -/
theorem no_brace_inside (parsed : index? inside = some number) :
    openBrace ∉ inside ∧ closeBrace ∉ inside := by
  unfold index? at parsed
  dsimp only at parsed
  split at parsed
  · rename_i digits
    have each : ∀ c ∈ inside, c = '+' ∨ c.isDigit = true := fun c listed =>
      (eq_plus_or_mem_dropPlus listed).imp id (List.all_eq_true.mp digits.2.1 c)
    exact ⟨fun listed => absurd (each _ listed) (by decide),
      fun listed => absurd (each _ listed) (by decide)⟩
  · cases parsed

theorem splitAtClose_eq_some (absent : closeBrace ∉ inside) (rest : List Char) :
    splitAtClose (inside ++ closeBrace :: rest) = some (inside, rest) := by
  induction inside with
  | nil => simp [splitAtClose]
  | cons c tail ih =>
    obtain ⟨differs, absent⟩ := not_or.mp (mt List.mem_cons.mpr absent)
    simp [splitAtClose, Ne.symm differs, ih absent]

theorem not_mem_of_splitAtClose (unsplit : splitAtClose text = none) : closeBrace ∉ text := by
  intro listed
  obtain ⟨inside, rest, rfl, absent⟩ := List.eq_append_cons_of_mem listed
  rw [splitAtClose_eq_some absent] at unsplit
  cases unsplit

theorem open_mem_of_splitAtClose (unclosed : closeBrace ∉ before)
    (split : splitAtClose (before ++ openBrace :: text) = some (inside, after)) :
    openBrace ∈ inside := by
  induction before generalizing inside with
  | nil =>
    rw [List.nil_append, splitAtClose, if_neg (by decide)] at split
    obtain ⟨parts, -, same⟩ := Option.map_eq_some_iff.mp split
    cases same
    exact List.mem_cons_self
  | cons c tail ih =>
    obtain ⟨differs, unclosed⟩ := not_or.mp (mt List.mem_cons.mpr unclosed)
    rw [List.cons_append, splitAtClose, if_neg (Ne.symm differs)] at split
    obtain ⟨parts, found, same⟩ := Option.map_eq_some_iff.mp split
    cases same
    exact List.mem_cons_of_mem _ (ih unclosed found)

theorem block?_of_split (split : splitAtClose text = some (inside, after)) :
    block? names text = (index? inside).bind fun number => names[number]?.map (·, after) := by
  rw [block?, split]
  cases parsed : index? inside with
  | none => simp [parsed]
  | some number => cases named : names[number]? <;> simp [parsed, named]

/-- A block has no opening brace in it, so another one further on changes nothing. -/
theorem block?_append_open (rest text : List Char) :
    block? names (rest ++ openBrace :: text) =
      (block? names rest).map fun (name, after) => (name, after ++ openBrace :: text) := by
  cases split : splitAtClose rest with
  | some parts =>
    obtain ⟨inside, after⟩ := parts
    obtain ⟨rfl, absent⟩ := eq_append_of_splitAtClose split
    rw [List.append_assoc, List.cons_append, block?_of_split (splitAtClose_eq_some absent _),
      block?_of_split split]
    cases index? inside with
    | none => rfl
    | some number => simp [Function.comp_def]
  | none =>
    have unnamed : block? names rest = none := by simp [block?, split]
    rw [unnamed, Option.map_none]
    cases further : splitAtClose (rest ++ openBrace :: text) with
    | none => simp [block?, further]
    | some parts =>
      have inner := open_mem_of_splitAtClose (not_mem_of_splitAtClose split) further
      have unparsed : index? parts.1 = none := by
        cases parsed : index? parts.1 with
        | none => rfl
        | some number => exact absurd inner (no_brace_inside parsed).1
      rw [block?_of_split further, unparsed, Option.bind_none]

/-! ### Rendering meets every block -/

theorem renderChars_named (found : block? names text = some (name, after)) :
    renderChars names (openBrace :: text) = name.toList ++ renderChars names after := by
  rw [renderChars, if_pos rfl]
  split
  · rename_i same
    rw [found] at same
    cases same
    rfl
  · rename_i missing
    rw [found] at missing
    cases missing

theorem renderChars_unnamed (missing : block? names text = none) :
    renderChars names (openBrace :: text) = openBrace :: renderChars names text := by
  rw [renderChars, if_pos rfl]
  split
  · rename_i found
    rw [missing] at found
    cases found
  · rfl

/-- What stands before an opening brace is rendered by itself. -/
theorem renderChars_append_open (before text : List Char) :
    renderChars names (before ++ openBrace :: text) =
      renderChars names before ++ renderChars names (openBrace :: text) := by
  fun_induction renderChars names before with
  | case1 => rfl
  | case2 rest name after found _ ih =>
    have further := @block?_append_open names rest text
    rw [found] at further
    rw [List.cons_append, renderChars_named further, ih, List.append_assoc]
  | case3 rest missing ih =>
    have further := @block?_append_open names rest text
    rw [missing] at further
    rw [List.cons_append, renderChars_unnamed further, ih, List.cons_append]
  | case4 c rest differs ih =>
    rw [List.cons_append, renderChars, if_neg differs, ih, List.cons_append]

/-- Text without an opening brace stays as it is. -/
theorem renderChars_append_plain (plain : openBrace ∉ inside) (text : List Char) :
    renderChars names (inside ++ text) = inside ++ renderChars names text := by
  induction inside with
  | nil => rfl
  | cons c tail ih =>
    obtain ⟨differs, plain⟩ := not_or.mp (mt List.mem_cons.mpr plain)
    rw [List.cons_append, renderChars, if_neg (Ne.symm differs), ih plain, List.cons_append]

/-- A block is replaced by the name that has its number, and stays if there is none. -/
theorem renderChars_block (parsed : index? inside = some number) (before after : List Char) :
    renderChars names (before ++ block inside ++ after) =
      renderChars names before ++ (names[number]?.map String.toList).getD (block inside) ++
        renderChars names after := by
  have asked : block? names (inside ++ closeBrace :: after) = names[number]?.map (·, after) := by
    rw [block?_of_split (splitAtClose_eq_some (no_brace_inside parsed).2 after), parsed,
      Option.bind_some]
  have closing : renderChars names (closeBrace :: after) =
      closeBrace :: renderChars names after := by
    rw [renderChars, if_neg (by decide)]
  have whole : before ++ block inside ++ after =
      before ++ openBrace :: (inside ++ closeBrace :: after) := by simp [block]
  rw [whole, renderChars_append_open]
  cases named : names[number]? with
  | some name =>
    rw [named] at asked
    rw [renderChars_named asked, List.append_assoc]
    rfl
  | none =>
    rw [named] at asked
    rw [renderChars_unnamed asked, renderChars_append_plain (no_brace_inside parsed).1, closing]
    simp [block]

/-- Rendering leaves exactly the blocks that stand in the text and whose number has no name. -/
theorem leaves_iff : Leaves names text number ↔
    names.length ≤ number ∧ ∃ before, Stands text before number := by
  constructor
  · rintro ⟨unnamed, before, inside, after, whole, parsed, -⟩
    exact ⟨unnamed, before, inside, after, whole, parsed⟩
  · rintro ⟨unnamed, before, inside, after, rfl, parsed⟩
    have rendered := @renderChars_block names inside number parsed before after
    rw [List.getElem?_eq_none unnamed] at rendered
    exact ⟨unnamed, before, inside, after, rfl, parsed, rendered⟩

/-! ### The check overlooks what is covered -/

theorem not_covered_nil : ¬ Covered [] := by
  rintro ⟨outer, inner, whole, -⟩
  cases outer <;> cases whole

theorem covered_open (unclosed : closeBrace ∉ text) : Covered (openBrace :: text) :=
  ⟨[], text, rfl, unclosed⟩

theorem covered_cons_iff (differs : c ≠ openBrace) : Covered (c :: text) ↔ Covered text := by
  constructor
  · rintro ⟨outer, inner, whole, unclosed⟩
    cases outer with
    | nil =>
      cases whole
      exact absurd rfl differs
    | cons first outer =>
      cases whole
      exact ⟨outer, inner, rfl, unclosed⟩
  · rintro ⟨outer, inner, rfl, unclosed⟩
    exact ⟨c :: outer, inner, rfl, unclosed⟩

/-- What stands before a closing brace covers nothing behind it. -/
theorem covered_append_close_iff (first second : List Char) :
    Covered (first ++ closeBrace :: second) ↔ Covered second := by
  constructor
  · rintro ⟨outer, inner, whole, unclosed⟩
    rcases List.append_eq_append_iff.mp whole with ⟨more, rfl, same⟩ | ⟨more, rfl, same⟩
    · cases more with
      | nil => cases same
      | cons _ more =>
        cases same
        exact ⟨more, inner, rfl, unclosed⟩
    · have closed : closeBrace ∈ openBrace :: inner := by simp [same]
      rcases List.mem_cons.mp closed with differ | inside
      · cases differ
      · exact absurd inside unclosed
  · rintro ⟨outer, inner, rfl, unclosed⟩
    exact ⟨first ++ closeBrace :: outer, inner, by simp, unclosed⟩

/-- A block with the number stands in the text where it is not covered. -/
def Seen (text : List Char) (number : Nat) : Prop :=
  ∃ before, Stands text before number ∧ ¬ Covered before

theorem seen_cons_iff (differs : c ≠ openBrace) : Seen (c :: text) number ↔ Seen text number := by
  constructor
  · rintro ⟨before, ⟨inside, after, whole, parsed⟩, bare⟩
    cases before with
    | nil =>
      cases whole
      exact absurd rfl differs
    | cons first before =>
      cases whole
      exact ⟨before, ⟨inside, after, rfl, parsed⟩, by rwa [covered_cons_iff differs] at bare⟩
  · rintro ⟨before, ⟨inside, after, rfl, parsed⟩, bare⟩
    exact ⟨c :: before, ⟨inside, after, rfl, parsed⟩, by rwa [covered_cons_iff differs]⟩

/-- Behind an opening brace only what it closes on is seen, and what stands behind its closing
brace. -/
theorem seen_open_iff (absent : closeBrace ∉ inside) (after : List Char) :
    Seen (openBrace :: (inside ++ closeBrace :: after)) number ↔
      index? inside = some number ∨ Seen after number := by
  constructor
  · rintro ⟨before, ⟨inner, later, whole, parsed⟩, bare⟩
    have split := splitAtClose_eq_some absent after
    cases before with
    | nil =>
      simp only [block, List.nil_append, List.cons_append, List.append_assoc, List.cons.injEq,
        true_and] at whole
      rw [whole, splitAtClose_eq_some (no_brace_inside parsed).2] at split
      cases split
      exact .inl parsed
    | cons c tail =>
      -- The block is seen, so the brace is closed before it, and this is where the check reads on.
      rw [List.cons_append, List.cons_append] at whole
      obtain ⟨rfl, behind⟩ := List.cons.inj whole
      have closed : closeBrace ∈ tail := by
        by_contra unclosed
        exact bare (covered_open unclosed)
      obtain ⟨head, before, rfl, unclosed⟩ := List.eq_append_cons_of_mem closed
      rw [behind, List.append_assoc, List.append_assoc, List.cons_append,
        splitAtClose_eq_some unclosed] at split
      cases split
      refine .inr ⟨before, ⟨inner, later, by simp, parsed⟩, ?_⟩
      rwa [← List.cons_append, covered_append_close_iff] at bare
  · rintro (parsed | ⟨before, ⟨inner, later, rfl, parsed⟩, bare⟩)
    · exact ⟨[], ⟨inside, after, by simp [block], parsed⟩, not_covered_nil⟩
    · refine ⟨openBrace :: inside ++ closeBrace :: before, ⟨inner, later, by simp, parsed⟩, ?_⟩
      rwa [covered_append_close_iff]

theorem not_seen_of_unclosed (unclosed : closeBrace ∉ text) : ¬ Seen text number := by
  rintro ⟨before, ⟨inside, after, rfl, -⟩, -⟩
  exact unclosed (by simp [block])

/-- The numbers that are checked are those of the blocks that are seen. -/
theorem mem_placeholderChars_iff : number ∈ placeholderChars text ↔ Seen text number := by
  fun_induction placeholderChars text with
  | case1 => simpa using not_seen_of_unclosed (by simp)
  | case2 rest inside after split _ ih =>
    obtain ⟨rfl, absent⟩ := eq_append_of_splitAtClose split
    rw [List.mem_append, Option.mem_toList, ih, seen_open_iff absent]
  | case3 rest unsplit =>
    have unclosed : closeBrace ∉ openBrace :: rest :=
      List.not_mem_cons_of_ne_of_not_mem (by decide) (not_mem_of_splitAtClose unsplit)
    simpa using not_seen_of_unclosed unclosed
  | case4 c rest differs ih => rw [ih, seen_cons_iff differs]

end NameAssignment.Template

namespace NameAssignment.Placeholders
open Template Manifest

/-- The check accepts exactly if every block that is seen has a name. -/
theorem checkTemplate_ok_iff {member template : String} {count : Nat} :
    Directory.checkTemplate member template count = .ok () ↔
      ∀ number, Seen template.toList number → number < count := by
  have accepted : Directory.checkTemplate member template count = .ok () ↔
      outOfRange? template count = none := by
    unfold Directory.checkTemplate
    cases outOfRange? template count <;> simp
  rw [accepted, outOfRange?, List.find?_eq_none]
  simp only [placeholders, mem_placeholderChars_iff, decide_eq_true_eq, Nat.not_le]

variable {manifest : Manifest} {filler : Char}

/-- What a dependent member of a manifest that builds proposes is its template, rendered with the
names of what it depends on; and the template has been accepted. -/
theorem propose_of_dependent (ran : manifest.build filler = .ok built) {handle : EntityRef}
    (declared : (population manifest.namespaces.zipIdx)[handle.index]? =
      some (home, .member member))
    (source : member.source = .dependent depends template function) :
    Directory.checkTemplate member.id template depends.length = .ok () ∧
    ∃ entity, built.graph.entity? handle = some entity ∧
      ∀ assigned proposal, entity.propose handle assigned = .ok proposal →
        ∃ names : List String, proposal = render template names ∧
          names.map some = depends.map fun key => assigned.get? (manifest.memberRef key) := by
  obtain ⟨formed, shows, -⟩ := build_ok ran
  have listed := mem_members_of_population (List.mem_of_getElem? declared)
  refine ⟨(formed.grounded member listed).template _ _ _ source, _,
    by rw [shows.entity?_eq, declared]; rfl, ?_⟩
  intro assigned proposal proposed
  simp only [entityOf, described, source, Entity.propose] at proposed
  cases gathered : Entity.gather ⟨member.id, handle⟩ assigned
      (depends.map manifest.memberRef) with
  | error cause =>
    rw [gathered] at proposed
    cases proposed
  | ok names =>
    rw [gathered] at proposed
    cases proposed
    refine ⟨names, rfl, ?_⟩
    rw [← Entity.gather_ok gathered, List.map_map]
    rfl

/-- **The check of a template overlooks what is covered.** It accepts exactly if every block that is
not covered has a name; rendering leaves every block that has none, covered or not. So rendering
leaves nothing exactly if the check accepts and the covered blocks have names too, and a block that
is left in a proposal of a manifest that builds is covered. -/
theorem check_overlooks_what_is_covered (member template : String) (names : List String) :
    (Directory.checkTemplate member template names.length = .ok () ↔
      ∀ number, Seen template.toList number → number < names.length) ∧
    (∀ number, Leaves names template.toList number ↔
      names.length ≤ number ∧ ∃ before, Stands template.toList before number) ∧
    ((∀ number, ¬ Leaves names template.toList number) ↔
      Directory.checkTemplate member template names.length = .ok () ∧ ∀ before number,
        Stands template.toList before number → Covered before → number < names.length) ∧
    ∀ (manifest : Manifest) filler built, manifest.build filler = .ok built →
      ∀ (handle : EntityRef) home entry depends function,
        (population manifest.namespaces.zipIdx)[handle.index]? = some (home, .member entry) →
        entry.source = .dependent depends template function →
        ∃ entity, built.graph.entity? handle = some entity ∧
          ∀ assigned proposal, entity.propose handle assigned = .ok proposal →
            ∃ given : List String, proposal = render template given ∧
              given.map some = depends.map (fun key => assigned.get? (manifest.memberRef key)) ∧
              ∀ before number, Stands template.toList before number → given.length ≤ number →
                Covered before := by
  refine ⟨checkTemplate_ok_iff, fun number => leaves_iff, ?_, ?_⟩
  · simp only [leaves_iff, checkTemplate_ok_iff, not_and, not_exists]
    constructor
    · intro nothing
      have named : ∀ before number, Stands template.toList before number →
          number < names.length := by
        intro before number stands
        by_contra beyond
        exact nothing number (Nat.not_lt.mp beyond) before stands
      exact ⟨fun number ⟨before, stands, _⟩ => named before number stands,
        fun before number stands _ => named before number stands⟩
    · rintro ⟨seen, covered⟩ number beyond before stands
      by_cases covers : Covered before
      · exact absurd (covered before number stands covers) (Nat.not_lt.mpr beyond)
      · exact absurd (seen number ⟨before, stands, covers⟩) (Nat.not_lt.mpr beyond)
  · intro manifest filler built ran handle home entry depends function declared source
    obtain ⟨accepted, entity, found, proposes⟩ := propose_of_dependent ran declared source
    refine ⟨entity, found, ?_⟩
    intro assigned proposal proposed
    obtain ⟨given, rendered, gathered⟩ := proposes assigned proposal proposed
    refine ⟨given, rendered, gathered, ?_⟩
    intro before number stands beyond
    by_contra bare
    have count : given.length = depends.length := by
      simpa using congrArg List.length gathered
    have below := checkTemplate_ok_iff.mp accepted number ⟨before, stands, bare⟩
    rw [← count] at below
    exact Nat.not_lt.mpr beyond below

/-- A member made from another, and one whose template has an opening brace too many. -/
def labels : Manifest where
  functions := .empty
  namespaces := [{ name := "types", members := [
    ⟨"person", .simple "Person" none⟩,
    ⟨"value", .dependent ["person"] "\x7b0\x7dValue" none⟩,
    ⟨"loose", .dependent [] "\x7b\x7b0\x7d" none⟩] }]

/-- The names of a run in which the first entity has got one. -/
def firstNamed : Names := .insert .empty ⟨0⟩ "Person"

/-- The manifest builds, and what two of its members propose can be computed. -/
theorem labels_propose : ∃ built first second, labels.build '_' = .ok built ∧
    built.graph.entity? ⟨1⟩ = some first ∧ first.propose ⟨1⟩ firstNamed = .ok "PersonValue" ∧
    built.graph.entity? ⟨2⟩ = some second ∧
    second.propose ⟨2⟩ firstNamed = .ok "\x7b\x7b0\x7d" := by
  let asks (built : BuiltManifest) (handle : EntityRef) : Option String :=
    (built.graph.entity? handle).bind fun entity => (entity.propose handle firstNamed).toOption
  obtain ⟨built, ran, shown⟩ := exists_ok_of_any (labels.build '_')
    (fun built => asks built ⟨1⟩ == some "PersonValue" && asks built ⟨2⟩ == some "\x7b\x7b0\x7d")
    (by decide +kernel)
  simp only [Bool.and_eq_true, beq_iff_eq] at shown
  have computed {handle : EntityRef} {text : String} (asked : asks built handle = some text) :
      ∃ entity, built.graph.entity? handle = some entity ∧
        entity.propose handle firstNamed = .ok text := by
    obtain ⟨entity, found, given⟩ := Option.bind_eq_some_iff.mp asked
    refine ⟨entity, found, ?_⟩
    cases proposed : entity.propose handle firstNamed with
    | error cause => simp [proposed, Except.toOption] at given
    | ok value => simpa [proposed, Except.toOption] using given
  obtain ⟨first, foundFirst, filled⟩ := computed shown.1
  obtain ⟨second, foundSecond, left⟩ := computed shown.2
  exact ⟨built, first, second, ran, foundFirst, filled, foundSecond, left⟩

/-- A placeholder that has a name is filled, and nothing of the template is left but what is
covered. -/
theorem value_is_filled : ∃ built entity, labels.build '_' = .ok built ∧
    built.graph.entity? ⟨1⟩ = some entity ∧ entity.propose ⟨1⟩ firstNamed = .ok "PersonValue" ∧
    ∀ before number, Stands "\x7b0\x7dValue".toList before number → 1 ≤ number →
      Covered before := by
  obtain ⟨built, first, -, ran, found, proposed, -⟩ := labels_propose
  obtain ⟨-, -, -, faithful⟩ := check_overlooks_what_is_covered "value" "\x7b0\x7dValue" ["Person"]
  obtain ⟨entity, again, proposes⟩ := faithful labels '_' built ran ⟨1⟩ _ _ _ _ rfl rfl
  obtain rfl : first = entity := Option.some.inj (found.symm.trans again)
  obtain ⟨given, -, gathered, left⟩ := proposes _ _ proposed
  have count : given.length = 1 := by simpa using congrArg List.length gathered
  rw [count] at left
  exact ⟨built, first, ran, found, proposed, left⟩

/-- The check accepts a block that is covered although nothing has its number, and the manifest
builds; so the block is still in the proposal. -/
theorem covered_block_is_left :
    Directory.checkTemplate "loose" "\x7b\x7b0\x7d" 0 = .ok () ∧
    Leaves [] "\x7b\x7b0\x7d".toList 0 ∧
    ∃ built entity, labels.build '_' = .ok built ∧ built.graph.entity? ⟨2⟩ = some entity ∧
      entity.propose ⟨2⟩ firstNamed = .ok "\x7b\x7b0\x7d" := by
  have overlooked : outOfRange? "\x7b\x7b0\x7d" 0 = none := by decide +kernel
  obtain ⟨built, -, second, ran, -, -, found, proposed⟩ := labels_propose
  refine ⟨by rw [Directory.checkTemplate, overlooked], ?_, built, second, ran, found, proposed⟩
  exact leaves_iff.mpr ⟨Nat.le_refl 0, [openBrace], ['0'], [], rfl, rfl⟩

end NameAssignment.Placeholders
