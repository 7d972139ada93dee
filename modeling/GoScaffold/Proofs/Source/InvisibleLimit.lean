import GoScaffold.Proofs.Catalog.Contents
import GoScaffold.Proofs.Source.SameOutside

/-!
# Where the nesting limit is invisible

The count of braces that the limit goes by is not the nesting that the reader of declarations
sees, which steps over comments and literals.  Where each of these closes the braces that it
opens, both agree between them, and the limit hides no declaration.  A comment of opening braces
is enough to hide the one behind it.
-/

namespace GoScaffold.Source

open Catalog (ofSource ofDeclarations)

variable {limit depth : Nat} {text rest : Text}

/-! ### Tokens -/

/-- The tokens of a text.  The first `skip` characters belong to one that is already listed. -/
def tokens : Nat → Text → List Text
  | _, [] => []
  | skip + 1, _ :: rest => tokens skip rest
  | 0, c :: rest =>
    match token? (c :: rest) with
    | some lexeme => lexeme :: tokens (lexeme.length - 1) rest
    | none => tokens 0 rest

/-- The characters of a text outside its tokens.  The first `skip` characters belong to
a token. -/
def outsideTokens : Nat → Text → Text
  | _, [] => []
  | skip + 1, _ :: rest => outsideTokens skip rest
  | 0, c :: rest =>
    match token? (c :: rest) with
    | some lexeme => outsideTokens (lexeme.length - 1) rest
    | none => c :: outsideTokens 0 rest

theorem tokens_eq_drop (skip : Nat) (text : Text) : tokens skip text = tokens 0 (text.drop skip) := by
  induction skip generalizing text with
  | zero => rfl
  | succ skip ih =>
    cases text with
    | nil => rfl
    | cons c rest => rw [tokens, ih, List.drop_succ_cons]

theorem outsideTokens_eq_drop (skip : Nat) (text : Text) :
    outsideTokens skip text = outsideTokens 0 (text.drop skip) := by
  induction skip generalizing text with
  | zero => rfl
  | succ skip ih =>
    cases text with
    | nil => rfl
    | cons c rest => rw [outsideTokens, ih, List.drop_succ_cons]

theorem tokens_of_token {lexeme : Text} (h : token? (lexeme ++ rest) = some lexeme) :
    tokens 0 (lexeme ++ rest) = lexeme :: tokens 0 rest ∧
      outsideTokens 0 (lexeme ++ rest) = outsideTokens 0 rest := by
  cases lexeme with
  | nil => exact absurd rfl (token?_isFront h).2
  | cons c lexeme =>
    rw [List.cons_append] at h ⊢
    rw [tokens, outsideTokens, h]
    dsimp only
    rw [List.length_cons, Nat.add_sub_cancel, tokens_eq_drop, outsideTokens_eq_drop, List.drop_left]
    exact ⟨rfl, rfl⟩

theorem tokens_of_single {c : Char} (h : token? (c :: rest) = none) :
    tokens 0 (c :: rest) = tokens 0 rest ∧ outsideTokens 0 (c :: rest) = c :: outsideTokens 0 rest := by
  rw [tokens, outsideTokens, h]
  exact ⟨rfl, rfl⟩

/-- A text is read token by token, and character by character between them. -/
theorem token_induction {motive : Text → Prop} (nil : motive [])
    (token : ∀ lexeme rest, token? (lexeme ++ rest) = some lexeme → motive rest → motive (lexeme ++ rest))
    (single : ∀ c rest, token? (c :: rest) = none → motive rest → motive (c :: rest)) :
    ∀ text, motive text := by
  intro text
  induction hlength : text.length using Nat.strong_induction_on generalizing text with
  | _ length ih =>
    subst hlength
    cases text with
    | nil => exact nil
    | cons c rest =>
      cases htoken : token? (c :: rest) with
      | none => exact single c rest htoken (ih rest.length (Nat.lt_succ_self _) rest rfl)
      | some lexeme =>
        obtain ⟨⟨behind, hbehind⟩, hne⟩ := token?_isFront htoken
        have hpos := List.length_pos_iff.2 hne
        rw [← hbehind] at htoken ⊢
        exact token lexeme behind htoken
          (ih behind.length (by rw [← hbehind, List.length_append]; omega) behind rfl)

/-! ### Tokens that close their braces -/

/-- Where the tokens close the braces that they open, and the others nest within the limit, only
braces in tokens are blanked.  The count is the same behind a token as in front of it. -/
theorem sameOutside_limitedFrom (hdepth : depth ≤ limit)
    (htokens : ∀ token ∈ tokens 0 text, ClosesBraces 0 token)
    (hnests : nestsWithin limit depth (outsideTokens 0 text) = true) :
    SameOutside text (limitedFrom limit depth text) := by
  induction text using token_induction generalizing depth with
  | nil => exact .nil
  | token lexeme rest htoken ih =>
    rw [(tokens_of_token htoken).1, List.forall_mem_cons] at htokens
    rw [(tokens_of_token htoken).2] at hnests
    have hcount : braceDepth depth lexeme = depth := htokens.1.braceDepth_add depth
    have hlength : (limitedFrom limit depth lexeme).length = lexeme.length :=
      (isBlankedFrom_limitedFrom limit depth lexeme).length_eq.symm
    have hother := (isBlankedFrom_limitedFrom limit depth (lexeme ++ rest)).token?
    rw [htoken, Option.map_some, limitedFrom_append, hcount, ← hlength, List.take_left] at hother
    rw [limitedFrom_append, hcount]
    exact .token htoken hother hlength (ih hdepth htokens.2 hnests)
  | single c rest htoken ih =>
    rw [(tokens_of_single htoken).1] at htokens
    rw [(tokens_of_single htoken).2, nestsWithin_cons_iff] at hnests
    have hsame : limitedChar limit depth c = c := (limitedChar_eq_self_iff hdepth).2 hnests.1
    have hother := (isBlankedFrom_limitedFrom limit depth (c :: rest)).token?
    rw [htoken, Option.map_none, limitedFrom, hsame] at hother
    rw [limitedFrom, hsame]
    exact .single htoken hother (ih ((bracesAfter_le_iff hdepth).2 hnests.1) htokens hnests.2)

theorem ClosesBraces.nestsWithin_add {inner outer : Nat} (h : ClosesBraces depth text)
    (hnests : nestsWithin inner depth text = true) (hlimit : outer + inner ≤ limit) :
    nestsWithin limit (outer + depth) text = true := by
  induction text generalizing depth with
  | nil => rfl
  | cons c rest ih =>
    obtain ⟨hc, hrest⟩ := closesBraces_cons_iff.1 h
    rw [nestsWithin_cons_iff] at hnests ⊢
    refine ⟨?_, ?_⟩
    · intro hopen
      have hlt := hnests.1 hopen
      omega
    · rw [bracesAfter_add hc]
      exact ih hrest hnests.2

/-- In all a text nests no deeper than it does between its tokens and they do together. -/
theorem nestsWithin_of_tokens {inner outer : Nat} (hlimit : inner + outer ≤ limit) (hdepth : depth ≤ outer)
    (htokens : ∀ token ∈ tokens 0 text, ClosesBraces 0 token ∧ nestsWithin inner 0 token = true)
    (hnests : nestsWithin outer depth (outsideTokens 0 text) = true) :
    nestsWithin limit depth text = true := by
  induction text using token_induction generalizing depth with
  | nil => rfl
  | token lexeme rest htoken ih =>
    rw [(tokens_of_token htoken).1, List.forall_mem_cons] at htokens
    rw [(tokens_of_token htoken).2] at hnests
    obtain ⟨⟨hcloses, hinner⟩, hothers⟩ := htokens
    have hcount : braceDepth depth lexeme = depth := hcloses.braceDepth_add depth
    have hlexeme : nestsWithin limit depth lexeme = true := hcloses.nestsWithin_add hinner (by omega)
    rw [nestsWithin_append, hlexeme, hcount, ih hdepth hothers hnests]
    rfl
  | single c rest htoken ih =>
    rw [(tokens_of_single htoken).1] at htokens
    rw [(tokens_of_single htoken).2, nestsWithin_cons_iff] at hnests
    rw [nestsWithin_cons_iff]
    refine ⟨?_, ih ((bracesAfter_le_iff hdepth).2 hnests.1) htokens hnests.2⟩
    intro hopen
    have hlt := hnests.1 hopen
    omega

/-! ### Names -/

def Header.structName? (header : Header) : Option Text :=
  match header.kind with
  | .struct => some header.name
  | .interface => none

def Header.interfaceName? (header : Header) : Option Text :=
  match header.kind with
  | .struct => none
  | .interface => some header.name

/-- The names of a catalog depend on the headers of its declarations only. -/
theorem names_ofDeclarations_eq {listed others : List Declaration}
    (h : listed.map Declaration.header = others.map Declaration.header) :
    (ofDeclarations listed).structs.map Struct.name = (ofDeclarations others).structs.map Struct.name ∧
      (ofDeclarations listed).interfaces.map Interface.name =
        (ofDeclarations others).interfaces.map Interface.name := by
  have hstruct : (fun declaration : Declaration => declaration.struct?.map Struct.name) =
      Header.structName? ∘ Declaration.header := by
    funext ⟨⟨name, kind⟩, body⟩
    cases kind <;> rfl
  have hinterface : (fun declaration : Declaration => declaration.interface?.map Interface.name) =
      Header.interfaceName? ∘ Declaration.header := by
    funext ⟨⟨name, kind⟩, body⟩
    cases kind <;> rfl
  simp only [Catalog.ofDeclarations_eq, Keyed.map_putAll, List.map_filterMap, hstruct, hinterface]
  rw [← List.filterMap_map, ← List.filterMap_map, ← List.filterMap_map, ← List.filterMap_map, h]
  exact ⟨rfl, rfl⟩

/-- Where the tokens close the braces that they open, the limit hides no name. -/
theorem names_ofSource (htokens : ∀ token ∈ tokens 0 text, ClosesBraces 0 token)
    (hnests : nestsWithin nestingLimit 0 (outsideTokens 0 text) = true) :
    (ofSource text).structs.map Struct.name = (ofDeclarations (declarations text)).structs.map Struct.name ∧
      (ofSource text).interfaces.map Interface.name =
        (ofDeclarations (declarations text)).interfaces.map Interface.name := by
  have hheaders := (sameOutside_limitedFrom (Nat.zero_le nestingLimit) htokens hnests).map_header_declarations
  rw [ofSource, limitNesting_eq_limitedFrom]
  exact names_ofDeclarations_eq hheaders

/-! ### Behind a comment -/

def behindComment (comment text : Text) : Text :=
  '/' :: '/' :: comment ++ '\n' :: text

theorem declarations_behindComment {comment : Text} (h : ∀ c ∈ comment, isLineBreak c = false)
    (text : Text) : declarations (behindComment comment text) = declarations text := by
  have htoken : token? (behindComment comment text) = some ('/' :: '/' :: comment) :=
    token?_lineComment h (by rintro d ⟨rfl⟩; rfl)
  have hfeed : declarations ('\n' :: text) = declarations text :=
    declarations_of_single (by decide) (by decide) text
  rw [← hfeed]
  exact declarations_of_token (declaration?_eq_none_of_head (by decide) _) htoken

theorem declarations_of_header {header : Header} {front : Text} (h : header.SpelledBy front) :
    declarations (front ++ ['}']) = [⟨header, []⟩] := by
  have hfound : declaration? (front ++ ['}']) = some (⟨header, []⟩, front.length + 1) :=
    declaration?_eq_some_iff_atFrontOf.2 ⟨front, [], h, rfl, rfl, rfl⟩
  rw [declarations_of_declaration hfound (List.drop_eq_nil_of_le (by simp))]
  rfl

theorem limitNesting_behindComment (limit : Nat) (comment text : Text) :
    limitNesting limit (behindComment comment text) =
      behindComment (limitedFrom limit 0 comment)
        (limitedFrom limit (braceDepth 0 comment) text) := by
  have hcut : behindComment comment text = ['/', '/'] ++ (comment ++ ('\n' :: text)) := rfl
  rw [limitNesting_eq_limitedFrom, hcut, limitedFrom_append, limitedFrom_append]
  rfl

/-- Both braces of an empty block stay, or none. -/
theorem limitedFrom_block (limit depth : Nat) :
    limitedFrom limit depth (['{'] ++ ['}']) = if limit ≤ depth then [' ', ' '] else ['{'] ++ ['}'] := by
  rw [List.singleton_append, limitedFrom, limitedFrom, limitedFrom, limitedChar_opening, bracesAfter_leftBrace,
    limitedChar_closing]
  by_cases hdeep : limit ≤ depth
  · rw [if_pos hdeep, if_pos hdeep, if_pos (Nat.lt_succ_of_le hdeep)]
  · rw [if_neg hdeep, if_neg hdeep, if_neg (fun hlt => hdeep (Nat.le_of_lt_succ hlt))]

/-- Behind a comment an empty declaration is read as without the limit exactly when the
comment leaves fewer braces open than the limit allows. -/
theorem ofSource_behindComment_iff {comment front : Text} {header : Header}
    (hcomment : ∀ c ∈ comment, isLineBreak c = false) (hfront : header.SpelledBy front) :
    ofSource (behindComment comment (front ++ ['}'])) =
        ofDeclarations (declarations (behindComment comment (front ++ ['}']))) ↔
      braceDepth 0 comment < nestingLimit := by
  obtain ⟨words, rfl, hwords⟩ := hfront.eq_append
  have hlimited := limitedFrom_of_no_brace hwords nestingLimit (braceDepth 0 comment)
  rw [ofSource, limitNesting_behindComment, declarations_behindComment hcomment,
    declarations_behindComment (isLineBreak_of_mem_limitedFrom hcomment), List.append_assoc,
    limitedFrom_append, hlimited.1, hlimited.2]
  by_cases hdepth : braceDepth 0 comment < nestingLimit
  · rw [limitedFrom_block, if_neg (Nat.not_le.2 hdepth)]
    exact iff_of_true rfl hdepth
  · have hnone : declarations (words ++ [' ', ' ']) = [] := by
      apply declarations_eq_nil
      intro hmem
      rcases List.mem_append.1 hmem with hmem | hmem
      · exact absurd (hwords '{' hmem) (by decide)
      · exact absurd hmem (by decide)
    refine iff_of_false ?_ hdepth
    rw [limitedFrom_block, if_pos (Nat.not_lt.1 hdepth), hnone, ← List.append_assoc, declarations_of_header hfront]
    obtain ⟨⟨name, kind⟩, rfl⟩ : ∃ other, other = header := ⟨header, rfl⟩
    cases kind with
    | struct => intro heq; cases congrArg Catalog.structs heq
    | interface => intro heq; cases congrArg Catalog.interfaces heq

/-! ### Where the limit is invisible -/

/-- A text whose braces, those in tokens included, nest within the limit is one that the
limit leaves as it is, and its catalog is that of its own declarations.  The braces in
tokens matter.  Without any, the nesting outside tokens decides.  Where each token closes the
braces that it opens, the limit hides no name, and where the tokens nest `inner` deep and the
braces between them `outer` deep, it hides nothing if both together are within the limit.
But behind a comment that leaves as many braces open as the limit allows, no declaration
is found. -/
theorem ofSource_eq_ofDeclarations (text : Text) :
    (nestsWithin nestingLimit 0 text = true ↔ limitNesting nestingLimit text = text) ∧
    (nestsWithin nestingLimit 0 text = true → ofSource text = ofDeclarations (declarations text)) ∧
    (nestsWithin nestingLimit 0 (outsideTokens 0 text) = true →
      (outsideTokens 0 text).filter isBrace = text.filter isBrace →
      ofSource text = ofDeclarations (declarations text)) ∧
    ((∀ token ∈ tokens 0 text, ClosesBraces 0 token) →
      (nestsWithin nestingLimit 0 (outsideTokens 0 text) = true →
        (ofSource text).structs.map Struct.name =
            (ofDeclarations (declarations text)).structs.map Struct.name ∧
          (ofSource text).interfaces.map Interface.name =
            (ofDeclarations (declarations text)).interfaces.map Interface.name) ∧
      ∀ inner outer, inner + outer ≤ nestingLimit →
        (∀ token ∈ tokens 0 text, nestsWithin inner 0 token = true) →
        nestsWithin outer 0 (outsideTokens 0 text) = true →
        ofSource text = ofDeclarations (declarations text)) ∧
    ∀ comment front header, (∀ c ∈ comment, isLineBreak c = false) →
      Header.SpelledBy header front → text = behindComment comment (front ++ ['}']) →
      (ofSource text = ofDeclarations (declarations text) ↔ braceDepth 0 comment < nestingLimit) := by
  have hunchanged : nestsWithin nestingLimit 0 text = true ↔ limitNesting nestingLimit text = text := by
    rw [limitNesting_eq_limitedFrom]
    exact (limitedFrom_eq_self_iff (Nat.zero_le nestingLimit) text).symm
  have hequal : nestsWithin nestingLimit 0 text = true →
      ofSource text = ofDeclarations (declarations text) := by
    intro hnests
    rw [ofSource, hunchanged.1 hnests]
  refine ⟨hunchanged, hequal, ?_, ?_, ?_⟩
  · intro hnests hbraces
    apply hequal
    rwa [← nestsWithin_filter_isBrace, ← hbraces, nestsWithin_filter_isBrace]
  · intro htokens
    refine ⟨names_ofSource htokens, ?_⟩
    intro inner outer hlimit hinner houter
    apply hequal
    exact nestsWithin_of_tokens hlimit (Nat.zero_le outer)
      (fun token htoken => ⟨htokens token htoken, hinner token htoken⟩) houter
  · rintro comment front header hcomment hfront rfl
    exact ofSource_behindComment_iff hcomment hfront

/-- Outside tokens the braces of this text nest one deep, yet the limit hides its
declaration. -/
theorem nestingLimit_hides_declaration :
    let text := behindComment (List.replicate 256 '{') ("type T struct \x7b" ++ ['}'])
    nestsWithin nestingLimit 0 (outsideTokens 0 text) = true ∧
      ofSource text ≠ ofDeclarations (declarations text) := by
  have hcomment : ∀ c ∈ List.replicate 256 '{', isLineBreak c = false := by
    intro c hc
    obtain rfl := List.eq_of_mem_replicate hc
    decide
  have hfront : Header.SpelledBy ⟨['T'], .struct⟩ "type T struct \x7b" :=
    ⟨by decide, [' '], [' '], [' '], by decide, by decide, by decide, by decide, by decide, by decide⟩
  refine ⟨by decide +kernel, ?_⟩
  rw [Ne, ofSource_behindComment_iff hcomment hfront]
  decide +kernel

end GoScaffold.Source
