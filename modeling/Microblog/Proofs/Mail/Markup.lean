import Mathlib.Data.List.Infix
import Microblog.Account.Credentials
import Microblog.Mail.Welcome

/-!
# Markup in the welcome mail

A reader of HTML takes a text for characters and markup. Markup begins at a `<`
before a letter, a slash, an exclamation mark or a question mark, and a tag ends
at the first `>` outside of quoted values. References to characters are left as
they are written.

The name of a user is put into the mail as it was given. So the mail is that of
the template, with the name as text, if and only if no markup begins in the name
(`tokens_body_iff`), and the bounds of a registration do not see to that
(`check_of_marksUp`).
-/

namespace Microblog.Mail

namespace Html

/-! ## Reading -/

/-- What stands behind a `<`, up to the end of it. -/
inductive Markup where
  | tag (source : List Char)
  /-- What shows nothing: a comment, a declaration or an end without a name. -/
  | remark (source : List Char)
  deriving DecidableEq, Repr

/-- What a text is read as. -/
inductive Token where
  | char (c : Char)
  | markup (m : Markup)
  deriving DecidableEq, Repr

/-- A place in a tag. -/
inductive Place where
  | start
  | name
  /-- Where an attribute may begin. -/
  | gap
  | key
  /-- Behind the sign of equality. -/
  | equals
  | bare
  | quoted (mark : Char)
  deriving DecidableEq, Repr

def isSpace (c : Char) : Bool :=
  c == ' ' || c == '\t' || c == '\n' || c == '\r' || c == '\x0c'

/-- The place behind a character that does not end the tag. -/
def Place.behind : Place → Char → Place
  | start, _ => name
  | name, c => if isSpace c || c == '/' then gap else name
  | gap, c => if isSpace c || c == '/' then gap else key
  | key, c => if c == '/' then gap else if c == '=' then equals else key
  | equals, c => if isSpace c then equals else if c == '"' || c == '\'' then quoted c else bare
  | bare, c => if isSpace c then gap else bare
  | quoted mark, c => if c == mark then gap else quoted mark

/-- Whether a tag ends at a `>` here. -/
def Place.ends : Place → Bool
  | start => false
  | quoted _ => false
  | _ => true

/-- How many characters come before the end of a tag. -/
def tagLength? : Place → List Char → Option Nat
  | _, [] => none
  | p, c :: cs => if c = '>' ∧ p.ends then some 0 else (tagLength? (p.behind c) cs).map (· + 1)

/-- How many characters come before the first occurrence of some others. -/
def offset? (w : List Char) : List Char → Option Nat
  | [] => none
  | c :: cs => if w.isPrefixOf (c :: cs) then some 0 else (offset? w cs).map (· + 1)

/-- Whether markup begins with a character behind a `<`. -/
def isOpener (c : Char) : Bool := c.isAlpha || c == '/' || c == '!' || c == '?'

def opens : List Char → Bool
  | [] => false
  | c :: _ => isOpener c

/-- Whether the markup behind a `<` is a tag. -/
def isTag : List Char → Bool
  | '/' :: c :: _ => c.isAlpha
  | c :: _ => c.isAlpha
  | [] => false

/-- The markup behind a `<`, with the number of characters up to its end, if it has one. -/
def markup? (cs : List Char) : Option (Markup × Nat) :=
  if isTag cs then (tagLength? .start cs).map fun n => (.tag (cs.take n), n + 1)
  else if ['!', '-', '-'].isPrefixOf cs then
    (offset? ['-', '-', '>'] cs.tail).map fun n => (.remark (cs.take (n + 1)), n + 4)
  else (offset? ['>'] cs).map fun n => (.remark (cs.take n), n + 1)

/-- What a text is read as, some characters of it having been read. Markup without an end is
dropped with all behind it. -/
def read : Nat → List Char → List Token
  | _, [] => []
  | n + 1, _ :: cs => read n cs
  | 0, c :: cs =>
    if c = '<' ∧ opens cs then
      match markup? cs with
      | some (m, n) => .markup m :: read n cs
      | none => []
    else .char c :: read 0 cs

def tokens (s : String) : List Token := read 0 s.toList

/-- The characters of a text. -/
def chars (s : String) : List Token := s.toList.map .char

/-- The tag that is written with a text between brackets. -/
def tag (s : String) : Token := .markup (.tag s.toList)

/-! ## Texts without markup -/

/-- Markup begins somewhere in a text. -/
def MarksUp (cs : List Char) : Prop := ∃ c, isOpener c = true ∧ ['<', c] <:+: cs

variable {c x mark : Char} {cs rest : List Char} {m : Markup} {n : Nat}

theorem opens_iff : opens cs = true ↔ ∃ c, isOpener c = true ∧ [c] <+: cs := by
  cases cs with
  | nil => simp [opens]
  | cons d cs => simp [opens, List.cons_prefix_cons]

theorem marksUp_cons_iff : MarksUp (c :: cs) ↔ (c = '<' ∧ opens cs = true) ∨ MarksUp cs := by
  rw [opens_iff]
  constructor
  · rintro ⟨d, hd, hpart⟩
    rcases List.infix_cons_iff.1 hpart with hfirst | hlater
    · obtain ⟨hc, hnext⟩ := List.cons_prefix_cons.1 hfirst
      exact .inl ⟨hc.symm, d, hd, hnext⟩
    · exact .inr ⟨d, hd, hlater⟩
  · rintro (⟨rfl, d, hd, hfirst⟩ | ⟨d, hd, hpart⟩)
    · exact ⟨d, hd, List.infix_cons_iff.2 (.inl (List.cons_prefix_cons.2 ⟨rfl, hfirst⟩))⟩
    · exact ⟨d, hd, List.infix_cons_iff.2 (.inr hpart)⟩

theorem not_marksUp_nil : ¬ MarksUp [] := by simp [MarksUp]

theorem read_drop (n : Nat) (cs : List Char) : read n cs = read 0 (cs.drop n) := by
  induction cs generalizing n with
  | nil => simp [read]
  | cons c cs ih =>
    cases n with
    | zero => rfl
    | succ n => exact ih n

theorem read_char (h : ¬ (c = '<' ∧ opens cs = true)) :
    read 0 (c :: cs) = .char c :: read 0 cs := by
  rw [read, if_neg h]

theorem read_markup (hopens : opens cs = true) (h : markup? cs = some (m, n)) :
    read 0 ('<' :: cs) = .markup m :: read 0 (cs.drop n) := by
  rw [read, if_pos ⟨rfl, hopens⟩, h, ← read_drop]

/-- Where markup opens, no character is read. -/
theorem read_ne_char (hopens : opens cs = true) (c : Char) (ts : List Token) :
    read 0 ('<' :: cs) ≠ .char c :: ts := by
  rw [read, if_pos ⟨rfl, hopens⟩]
  cases markup? cs <;> nofun

theorem read_text (h : '<' ∉ cs) (rest : List Char) :
    read 0 (cs ++ rest) = cs.map .char ++ read 0 rest := by
  induction cs with
  | nil => rfl
  | cons c cs ih =>
    rw [List.mem_cons, not_or] at h
    rw [List.cons_append, read_char fun hc => h.1 hc.1.symm, ih h.2]
    rfl

/-- A text before a character that does not open markup is read as its characters exactly if no
markup begins in it. -/
theorem read_append_iff (hx : isOpener x = false) :
    read 0 (cs ++ x :: rest) = cs.map .char ++ read 0 (x :: rest) ↔ ¬ MarksUp cs := by
  induction cs with
  | nil => exact iff_of_true rfl not_marksUp_nil
  | cons c cs ih =>
    have hopens : opens (cs ++ x :: rest) = opens cs := by
      cases cs with
      | nil => exact hx
      | cons d cs => rfl
    rw [marksUp_cons_iff, List.cons_append]
    by_cases h : c = '<' ∧ opens cs = true
    · obtain ⟨rfl, ho⟩ := h
      refine iff_of_false (read_ne_char (hopens.trans ho) _ _) (not_not_intro (.inl ⟨rfl, ho⟩))
    · rw [read_char (by rwa [hopens]), List.map_cons, List.cons_append, List.cons_inj_right, ih,
        or_iff_right h]

/-! ## Tags -/

/-- A tag goes on as long as there is no `>`. -/
theorem tagLength?_append (p : Place) (h : '>' ∉ cs) (rest : List Char) :
    tagLength? p (cs ++ rest) =
      (tagLength? (cs.foldl Place.behind p) rest).map (· + cs.length) := by
  induction cs generalizing p with
  | nil => simp
  | cons c cs ih =>
    rw [List.mem_cons, not_or] at h
    rw [List.cons_append, tagLength?, if_neg fun hc => h.1 hc.1.symm, ih _ h.2, Option.map_map]
    rfl

/-- A quoted value goes on as long as its mark does not come. -/
theorem foldl_behind_quoted (h : mark ∉ cs) :
    cs.foldl Place.behind (.quoted mark) = .quoted mark := by
  induction cs with
  | nil => rfl
  | cons c cs ih =>
    rw [List.mem_cons, not_or] at h
    have hbehind : (Place.quoted mark).behind c = .quoted mark := by
      simp [Place.behind, Ne.symm h.1]
    rw [List.foldl_cons, hbehind, ih h.2]

theorem isTag_append (h : isTag cs = true) (rest : List Char) : isTag (cs ++ rest) = true := by
  unfold isTag at h
  split at h
  · exact h
  · rename_i c cs hcs
    have hc : c ≠ '/' := by
      rintro rfl
      exact absurd h (by decide)
    simp [isTag, hc, h]
  · cases h

theorem opens_of_isTag (h : isTag cs = true) : opens cs = true := by
  unfold isTag at h
  split at h
  · rfl
  · simp [opens, isOpener, h]
  · cases h

/-- A text without a `>` is read as a tag between brackets, if it begins and ends like one. -/
theorem read_tag (htag : isTag cs = true) (h : '>' ∉ cs)
    (hends : (cs.foldl Place.behind .start).ends = true) (rest : List Char) :
    read 0 ('<' :: (cs ++ '>' :: rest)) = .markup (.tag cs) :: read 0 rest := by
  have hlength : tagLength? .start (cs ++ '>' :: rest) = some cs.length := by
    rw [tagLength?_append _ h, tagLength?, if_pos ⟨rfl, hends⟩]
    simp
  have htag := isTag_append htag ('>' :: rest)
  have hmarkup : markup? (cs ++ '>' :: rest) = some (.tag cs, cs.length + 1) := by
    rw [markup?, if_pos htag, hlength, Option.map_some, List.take_left]
  rw [read_markup (opens_of_isTag htag) hmarkup, List.drop_append, List.drop_eq_nil_of_le (by simp)]
  simp

/-! ## Parts of a text -/

/-- Whatever comes behind it, a text is read as these tokens. -/
def Reads (s : String) (ts : List Token) : Prop :=
  ∀ rest, read 0 (s.toList ++ rest) = ts ++ read 0 rest

variable {s s' : String} {ts ts' : List Token}

theorem Reads.append (h : Reads s ts) (h' : Reads s' ts') : Reads (s ++ s') (ts ++ ts') := by
  intro rest
  rw [String.toList_append, List.append_assoc, List.append_assoc, h, h']

theorem reads_chars (h : '<' ∉ s.toList) : Reads s (chars s) := read_text h

/-- A tag with one attribute. -/
theorem reads_link (h : '>' ∉ s.toList) (hquoted : '"' ∉ s.toList) :
    Reads ("<a href=\"" ++ s ++ "\">") [tag ("a href=\"" ++ s ++ "\"")] := by
  intro rest
  have hopen : "a href=\"".toList.foldl Place.behind .start = .quoted '"' := by decide
  have hends : (("a href=\"" ++ s ++ "\"").toList.foldl Place.behind .start).ends = true := by
    rw [String.toList_append, String.toList_append, List.foldl_append, List.foldl_append, hopen,
      foldl_behind_quoted hquoted]
    rfl
  have hread := read_tag (by simp [isTag]) (by simpa using h) hends rest
  rw [tag, List.singleton_append, ← hread]
  simp

end Html

/-! ## The welcome mail -/

open Html

namespace Template

def paragraph (s : String) : String := "<p>" ++ s ++ "</p>"

def thanks : String := "Thanks for signing up. Confirm your email to activate your account:"

def notice : String := "If you did not sign up you can ignore this email."

/-- A link to an address, which it shows. -/
def link (url : String) : String := "<a href=\"" ++ url ++ "\">" ++ url ++ "</a>"

/-- What stands behind the greeting. -/
def message (url : String) : String := paragraph thanks ++ paragraph (link url) ++ paragraph notice

theorem body_eq (v : Vars) : userWelcome.body v =
    "<p>" ++ "Hi " ++ v.username ++ ("," ++ "</p>" ++ message v.activationUrl) := by
  have hgreeting : "<p>Hi " = "<p>" ++ "Hi " := rfl
  have hend : ",</p>" = "," ++ "</p>" := rfl
  have hthanks : "<p>Thanks for signing up. Confirm your email to activate your account:</p>" =
      paragraph thanks := rfl
  have hopen : "<p><a href=\"" = "<p>" ++ "<a href=\"" := rfl
  have hclose : "</a></p>" = "</a>" ++ "</p>" := rfl
  have hnotice : "<p>If you did not sign up you can ignore this email.</p>" =
      paragraph notice := rfl
  have hlink : paragraph (link v.activationUrl) = "<p>" ++ link v.activationUrl ++ "</p>" := rfl
  unfold body
  rw [message, hlink, link, hgreeting, hend, hthanks, hopen, hclose, hnotice]
  simp only [String.append_assoc]

/-- The tags of a paragraph around what it holds. -/
def paragraphTokens (ts : List Token) : List Token := [tag "p"] ++ ts ++ [tag "/p"]

def linkTokens (url : String) : List Token :=
  [tag ("a href=\"" ++ url ++ "\"")] ++ chars url ++ [tag "/a"]

def messageTokens (url : String) : List Token :=
  paragraphTokens (chars thanks) ++ paragraphTokens (linkTokens url) ++
    paragraphTokens (chars notice)

/-- The tags of the template with the texts between them, of which the name is a part. -/
def tokens (v : Vars) : Template → List Token
  | userWelcome => paragraphTokens (chars ("Hi " ++ v.username ++ ",")) ++
    messageTokens v.activationUrl

/-- No character of the text is special in HTML. -/
def IsPlain (s : String) : Prop := ∀ c ∈ ['<', '>', '&', '"', '\''], c ∉ s.toList

instance (s : String) : Decidable (IsPlain s) := List.decidableBAll _ _

theorem reads_paragraph {s : String} {ts : List Token} (h : Reads s ts) :
    Reads (paragraph s) (paragraphTokens ts) := by
  have hopen : Reads "<p>" [tag "p"] := fun _ => rfl
  have hclose : Reads "</p>" [tag "/p"] := fun _ => rfl
  exact (hopen.append h).append hclose

theorem reads_message {url : String} (h : IsPlain url) :
    Reads (message url) (messageTokens url) := by
  have hclose : Reads "</a>" [tag "/a"] := fun _ => rfl
  have hlink : Reads (link url) (linkTokens url) :=
    ((reads_link (h '>' (by decide)) (h '"' (by decide))).append
      (reads_chars (h '<' (by decide)))).append hclose
  have hthanks : Reads thanks (chars thanks) := reads_chars (by decide)
  have hnotice : Reads notice (chars notice) := reads_chars (by decide)
  exact ((reads_paragraph hthanks).append (reads_paragraph hlink)).append (reads_paragraph hnotice)

theorem tokens_eq (v : Vars) : userWelcome.tokens v =
    [tag "p"] ++ chars "Hi " ++
      (chars v.username ++ .char ',' :: ([tag "/p"] ++ messageTokens v.activationUrl)) := by
  simp [tokens, paragraphTokens, chars]

/-- The mail is read as the template if and only if no markup begins in the name. -/
theorem tokens_body_iff {v : Vars} (h : IsPlain v.activationUrl) :
    Html.tokens (userWelcome.body v) = userWelcome.tokens v ↔ ¬ MarksUp v.username.toList := by
  have hgreeting : Reads ("<p>" ++ "Hi ") ([tag "p"] ++ chars "Hi ") := fun _ => rfl
  have hclose : Reads "</p>" [tag "/p"] := fun _ => rfl
  have hbody : (userWelcome.body v).toList = ("<p>" ++ "Hi ").toList ++
      (v.username.toList ++ ',' :: ("</p>" ++ message v.activationUrl).toList) := by
    rw [body_eq]
    simp
  have hrest : read 0 (',' :: ("</p>" ++ message v.activationUrl).toList) =
      .char ',' :: ([tag "/p"] ++ messageTokens v.activationUrl) := by
    have hmessage := hclose.append (reads_message h) []
    rw [List.append_nil, show Html.read 0 [] = [] from rfl, List.append_nil] at hmessage
    rw [read_char (by simp), hmessage]
  rw [← read_append_iff (x := ',') (by decide), Html.tokens, hbody, hgreeting, tokens_eq,
    List.append_right_inj, ← hrest]
  rfl

/-- The mail has the brackets of the template and those in the name. -/
theorem count_body {v : Vars} (h : IsPlain v.activationUrl) :
    (userWelcome.body v).toList.count '<' = 10 + v.username.toList.count '<' := by
  have hurl : v.activationUrl.toList.count '<' = 0 := List.count_eq_zero.2 (h '<' (by decide))
  have hmessage : (message v.activationUrl).toList.count '<' = 8 := by
    simp only [message, paragraph, link, String.toList_append, List.count_append, hurl]
    rfl
  rw [body_eq]
  simp only [String.toList_append, List.count_append, hmessage]
  have hopen : "<p>".toList.count '<' = 1 := rfl
  have hgreeting : "Hi ".toList.count '<' = 0 := rfl
  have hcomma : ",".toList.count '<' = 0 := rfl
  have hclose : "</p>".toList.count '<' = 1 := rfl
  omega

/-- A name in which markup begins is not blank, so that the bounds of a registration let it through
if it is not too long. -/
theorem check_of_marksUp {username email password : String} (hmarks : MarksUp username.toList)
    (hlength : username.length ≤ 100) (hrest : Account.checkCredentials email password = .ok ()) :
    Account.Registration.check ⟨username, email, password⟩ = .ok () := by
  obtain ⟨c, -, hpart⟩ := hmarks
  have hmem : '<' ∈ username.toList := hpart.subset List.mem_cons_self
  have hblank : ¬ (Text.allBlank username = true) := by
    intro h
    exact absurd (List.all_eq_true.1 h '<' hmem) (by decide)
  unfold Account.Registration.check
  rw [if_neg (by simp [hblank, Nat.not_lt.2 hlength]), hrest]

/-- **Markup.** The mail is that of the template, with the name as text, if and only if no markup
begins in the name; it has a bracket more for each one in the name. No name is refused for it. -/
theorem welcome_is_template_iff (v : Vars) (h : IsPlain v.activationUrl) :
    (userWelcome.body v).toList.count '<' = 10 + v.username.toList.count '<' ∧
      (Html.tokens (userWelcome.body v) = userWelcome.tokens v ↔
        ¬ MarksUp v.username.toList) ∧
      ∀ email password, MarksUp v.username.toList → v.username.length ≤ 100 →
        Account.checkCredentials email password = .ok () →
        Account.Registration.check ⟨v.username, email, password⟩ = .ok () :=
  ⟨count_body h, tokens_body_iff h, fun _ _ => check_of_marksUp⟩

/-- An address of an activation. -/
def sampleUrl : String := "http://localhost:5173/confirm/abc"

/-- A bracket before a digit is text. -/
theorem welcome_is_template_heart : IsPlain sampleUrl ∧
    Html.tokens (userWelcome.body ⟨"ann <3", sampleUrl⟩) =
      userWelcome.tokens ⟨"ann <3", sampleUrl⟩ := by
  have hplain : IsPlain sampleUrl := by decide
  have hname : ¬ MarksUp "ann <3".toList := by
    simp [marksUp_cons_iff, not_marksUp_nil, opens, isOpener]
  exact ⟨hplain, (welcome_is_template_iff ⟨"ann <3", sampleUrl⟩ hplain).2.1.2 hname⟩

/-- Of two users who may register, one gets a mail with elements that are not in the template. -/
theorem tagged_name_adds_elements : IsPlain sampleUrl ∧
    (∀ name ∈ ["ann", "<b>ann</b>"],
      Account.Registration.check ⟨name, "ann@example.com", "secret"⟩ = .ok ()) ∧
    (userWelcome.body ⟨"ann", sampleUrl⟩).toList.count '<' = 10 ∧
    (userWelcome.body ⟨"<b>ann</b>", sampleUrl⟩).toList.count '<' = 12 ∧
    tag "b" ∈ Html.tokens (userWelcome.body ⟨"<b>ann</b>", sampleUrl⟩) ∧
    tag "b" ∉ userWelcome.tokens ⟨"<b>ann</b>", sampleUrl⟩ := by
  have hplain : IsPlain sampleUrl := by decide
  have hname : Reads ("<p>" ++ "Hi " ++ "<b>ann</b>")
      ([tag "p"] ++ chars "Hi " ++ [tag "b"] ++ chars "ann" ++ [tag "/b"]) := fun _ => rfl
  refine ⟨hplain, by decide, count_body hplain, count_body hplain, ?_, ?_⟩
  · rw [Html.tokens, body_eq, String.toList_append, hname]
    simp
  · simp [tokens, paragraphTokens, messageTokens, linkTokens, chars, tag]

end Template

end Microblog.Mail
