/-
The address that an agent reports to, from its settings to its requests.

An address is trimmed, then its slashes at the end are cut, and a scheme is put before it if it
has none (`normalChars`). The way to a collector cuts slashes once more, and every request goes to what
is left with the path of batches behind it (`PostsTo`).

Each step is done once, so two kinds of address come out wrong: one of slashes alone, of which the scheme is
left, and one with a blank before its last slashes, where the blank is left at the end. All other valid
addresses become a base URL that nothing changes any more (`base_url_settles_iff`).
-/
import Mathlib.Data.List.DropRight
import Mathlib.Data.List.Infix
import Telemetry.Agent.Wire
import Telemetry.Proofs.Text.Blank

namespace Telemetry

namespace Text

def isSlash (c : Char) : Bool :=
  c == '/'

theorem isSlash_iff {c : Char} : isSlash c = true ↔ c = '/' :=
  beq_iff_eq

theorem isSlash_of_isBlank {c : Char} (blank : isBlank c = true) : isSlash c = false := by
  refine Bool.eq_false_iff.2 fun slash => ?_
  rw [isSlash_iff.1 slash] at blank
  exact absurd blank (by decide)

theorem toList_dropSlashEnd (s : String) : (dropSlashEnd s).toList = s.toList.rdropWhile isSlash := by
  rw [dropSlashEnd, String.toList_ofList]
  rfl

theorem rdropWhile_slashes (cs : List Char) (n : Nat) :
    (cs ++ List.replicate n '/').rdropWhile isSlash = cs.rdropWhile isSlash := by
  have slashes : ∀ c ∈ List.replicate n '/', isSlash c = true := fun c mem =>
    isSlash_iff.2 (List.eq_of_mem_replicate mem)
  rw [List.rdropWhile, List.reverse_append,
    List.dropWhile_append_of_pos fun c mem => slashes c (List.mem_reverse.1 mem)]
  rfl

theorem exists_slashes (cs : List Char) :
    ∃ n, cs = cs.rdropWhile isSlash ++ List.replicate n '/' := by
  refine ⟨(cs.rtakeWhile isSlash).length, ?_⟩
  have slashes : cs.rtakeWhile isSlash = List.replicate (cs.rtakeWhile isSlash).length '/' :=
    List.eq_replicate_iff.2 ⟨rfl, fun c mem => isSlash_iff.1 (List.mem_rtakeWhile_imp mem)⟩
  rw [← slashes, List.rdropWhile_append_rtakeWhile]

end Text

open Text

/-! ## Base URLs -/

/-- The text is a scheme with something behind it, and does not end in a slash. -/
structure IsBaseUrl (url : String) : Prop where
  scheme : ∃ rest, rest ≠ "" ∧ (url = "http://" ++ rest ∨ url = "https://" ++ rest)
  noSlash : url.toList.getLast? ≠ some '/'

/-- Nothing but slashes. -/
def SlashesAlone (cs : List Char) : Prop :=
  ∃ n, cs = List.replicate (n + 1) '/'

/-- A blank stands right before the slashes at the end. -/
def BlankBeforeSlashes (cs : List Char) : Prop :=
  ∃ text b n, isBlank b = true ∧ cs = text ++ b :: List.replicate (n + 1) '/'

namespace AgentSettings

/-- What is left of an address without the blanks around it and then the slashes at its end. -/
def bareChars (cs : List Char) : List Char :=
  (trimChars cs).rdropWhile isSlash

/-- An address as a base URL. -/
def normalChars (cs : List Char) : List Char :=
  if hasScheme (bareChars cs) then bareChars cs else "http://".toList ++ bareChars cs

theorem toList_baseUrl (s : AgentSettings) : s.baseUrl.toList = normalChars s.serverAddress.toList := by
  have bare : (dropSlashEnd (trim s.serverAddress)).toList = bareChars s.serverAddress.toList := by
    rw [toList_dropSlashEnd, trim, String.toList_ofList]
    rfl
  rw [baseUrl, normalChars]
  split <;> rename_i scheme <;> rw [bare] at scheme
  · rw [if_pos scheme, bare]
  · rw [if_neg scheme, String.toList_append, bare]

theorem hasScheme_iff {cs : List Char} :
    hasScheme cs = true ↔ "http://".toList <+: cs ∨ "https://".toList <+: cs := by
  rw [hasScheme, Bool.or_eq_true, List.isPrefixOf_iff_prefix, List.isPrefixOf_iff_prefix]

theorem exists_rest {cs : List Char} (scheme : hasScheme cs = true) :
    ∃ rest, cs = "http://".toList ++ rest ∨ cs = "https://".toList ++ rest := by
  rcases hasScheme_iff.1 scheme with ⟨rest, eq⟩ | ⟨rest, eq⟩
  · exact ⟨rest, .inl eq.symm⟩
  · exact ⟨rest, .inr eq.symm⟩

theorem hasScheme_normalChars (cs : List Char) : hasScheme (normalChars cs) = true := by
  rw [normalChars]
  split
  · assumption
  · exact hasScheme_iff.2 (.inl (List.prefix_append _ _))

theorem getLast?_normalChars {cs : List Char} (any : bareChars cs ≠ []) :
    (normalChars cs).getLast? = (bareChars cs).getLast? := by
  rw [normalChars]
  split
  · rfl
  · rw [List.getLast?_append, List.getLast?_eq_some_getLast any, Option.some_or]

/-- What is left of an address is nothing, or ends in no slash; the scheme alone ends in one. -/
theorem slash_normalChars_iff {cs : List Char} :
    (normalChars cs).getLast? = some '/' ↔ bareChars cs = [] := by
  constructor
  · intro slash
    refine Decidable.byContradiction fun any => ?_
    rw [getLast?_normalChars any] at slash
    exact absurd (getLast?_rdropWhile slash) (by decide)
  · intro none
    rw [normalChars, none]
    decide

theorem hasScheme_baseUrl (s : AgentSettings) : hasScheme s.baseUrl.toList = true := by
  rw [toList_baseUrl]
  exact hasScheme_normalChars _

theorem slash_baseUrl_iff (s : AgentSettings) :
    s.baseUrl.toList.getLast? = some '/' ↔ bareChars s.serverAddress.toList = [] := by
  rw [toList_baseUrl]
  exact slash_normalChars_iff

theorem isBaseUrl_iff (s : AgentSettings) :
    IsBaseUrl s.baseUrl ↔ bareChars s.serverAddress.toList ≠ [] := by
  refine ⟨fun base none => base.noSlash (s.slash_baseUrl_iff.2 none),
    fun any => ⟨?_, mt s.slash_baseUrl_iff.1 any⟩⟩
  obtain ⟨rest, eq⟩ := exists_rest s.hasScheme_baseUrl
  refine ⟨String.ofList rest, fun none => any (s.slash_baseUrl_iff.1 ?_), ?_⟩
  · -- Without a rest the base URL would end in the scheme's own slash.
    rw [String.ofList_eq_empty_iff.1 none, List.append_nil, List.append_nil] at eq
    rcases eq with eq | eq <;> rw [eq] <;> decide
  · refine eq.imp (fun eq => ?_) fun eq => ?_ <;>
      exact String.toList_inj.1 (by simp [eq])

theorem ofAddress_baseUrl_iff (s : AgentSettings) (codec : Option BodyCodec) :
    (Agent.Transport.ofAddress s.baseUrl codec).address = s.baseUrl ↔
      bareChars s.serverAddress.toList ≠ [] := by
  rw [Agent.Transport.ofAddress, ← String.toList_inj, toList_dropSlashEnd,
    List.rdropWhile_eq_self_iff]
  refine Iff.trans ?_ (not_congr s.slash_baseUrl_iff)
  constructor
  · rintro kept last
    obtain ⟨any, eq⟩ := List.mem_getLast?_eq_getLast last
    exact kept any (isSlash_iff.2 eq.symm)
  · exact fun last any slash => last (by rw [List.getLast?_eq_some_getLast any, isSlash_iff.1 slash])

/-! ## A base URL as an address -/

/-- A text with a scheme begins with no blank, so it is only trimmed at its end. -/
theorem bareChars_of_hasScheme {cs : List Char} (scheme : hasScheme cs = true) :
    bareChars cs = (cs.rdropWhile isBlank).rdropWhile isSlash := by
  obtain ⟨rest, rfl | rfl⟩ := exists_rest scheme
  · exact congrArg (List.rdropWhile isSlash) (trimChars_cons (by decide) _)
  · exact congrArg (List.rdropWhile isSlash) (trimChars_cons (by decide) _)

/-- A part of a scheme that is cut off at its end and has a scheme put before it is another text. -/
theorem bareChars_scheme_ne : ∀ cs ∈ "http://".toList.inits,
    hasScheme cs = true ∨ bareChars ("http://".toList ++ cs) ≠ cs := by
  decide

theorem bareChars_eq_self_iff {cs : List Char} (scheme : hasScheme cs = true) :
    bareChars cs = cs ↔ ∃ c, cs.getLast? = some c ∧ isBlank c = false ∧ isSlash c = false := by
  have bare := bareChars_of_hasScheme scheme
  constructor
  · intro kept
    have noBlank : cs.rdropWhile isBlank = cs := by
      refine (List.rdropWhile_prefix _ _).eq_of_length_le ?_
      have cut := (List.rdropWhile_prefix isSlash (cs.rdropWhile isBlank)).length_le
      rwa [← bare, kept] at cut
    have any : cs ≠ [] := by
      rintro rfl
      cases scheme
    obtain ⟨c, last⟩ : ∃ c, cs.getLast? = some c := ⟨_, List.getLast?_eq_some_getLast any⟩
    have trimmed : (cs.rdropWhile isBlank).getLast? = some c := by rw [noBlank, last]
    have cut : ((cs.rdropWhile isBlank).rdropWhile isSlash).getLast? = some c := by
      rw [← bare, kept, last]
    exact ⟨c, last, getLast?_rdropWhile trimmed, getLast?_rdropWhile cut⟩
  · rintro ⟨c, last, blank, slash⟩
    rw [bare, rdropWhile_of_getLast? last blank, rdropWhile_of_getLast? last slash]

/-- **A text with a scheme is its own base URL exactly when there is nothing to cut off.** A scheme
that is put before the rest does not make up for what was cut. -/
theorem normalChars_eq_self_iff {cs : List Char} (scheme : hasScheme cs = true) :
    normalChars cs = cs ↔ bareChars cs = cs := by
  refine ⟨fun same => ?_, fun kept => by rw [normalChars, kept, if_pos scheme]⟩
  rw [normalChars] at same
  split at same
  · exact same
  · -- What is left begins the text, as a scheme does, and has none, so it begins the scheme.
    rename_i none
    have left : bareChars cs <+: cs := by
      rw [bareChars_of_hasScheme scheme]
      exact (List.rdropWhile_prefix _ _).trans (List.rdropWhile_prefix _ _)
    rcases List.prefix_or_prefix_of_prefix ⟨_, same⟩ left with longer | shorter
    · exact absurd (hasScheme_iff.2 (.inl longer)) none
    · rcases bareChars_scheme_ne _ ((List.mem_inits _ _).2 shorter) with has | ne
      · exact absurd has none
      · exact absurd (congrArg bareChars same) ne

/-- Nothing is left of slashes alone, and of no other text that is not blank. -/
theorem bareChars_eq_nil_iff {cs : List Char} (any : trimChars cs ≠ []) :
    bareChars cs = [] ↔ SlashesAlone (trimChars cs) := by
  obtain ⟨n, cut⟩ := exists_slashes (trimChars cs)
  constructor
  · intro none
    rw [bareChars] at none
    rw [none, List.nil_append] at cut
    cases n with
    | zero => exact absurd cut any
    | succ n => exact ⟨n, cut⟩
  · rintro ⟨n, slashes⟩
    have nothing := rdropWhile_slashes [] (n + 1)
    rwa [List.nil_append, ← slashes] at nothing

/-- What is left ends in a blank if that stood before slashes: a blank at the end was trimmed. -/
theorem blank_bareChars_iff {cs : List Char} :
    (∃ b, (bareChars cs).getLast? = some b ∧ isBlank b = true) ↔ BlankBeforeSlashes (trimChars cs) := by
  obtain ⟨n, cut⟩ := exists_slashes (trimChars cs)
  constructor
  · rintro ⟨b, last, blank⟩
    obtain ⟨text, eq⟩ := List.getLast?_eq_some_iff.1 last
    cases n with
    | zero =>
      rw [List.replicate_zero, List.append_nil] at cut
      rw [bareChars, ← cut] at last
      rw [getLast?_rdropWhile (p := isBlank) last] at blank
      cases blank
    | succ n =>
      rw [bareChars] at eq
      rw [eq, List.append_assoc] at cut
      exact ⟨text, b, n, blank, cut⟩
  · rintro ⟨text, b, n, blank, eq⟩
    have last : (text ++ [b]).getLast? = some b := List.getLast?_concat
    refine ⟨b, ?_, blank⟩
    rw [bareChars, eq, ← List.singleton_append, ← List.append_assoc, rdropWhile_slashes,
      rdropWhile_of_getLast? last (isSlash_of_isBlank blank), last]

/-- A base URL taken for an address is its own base URL again, but for the two kinds of address. -/
theorem baseUrl_again_iff (s : AgentSettings) (any : trimChars s.serverAddress.toList ≠ []) :
    { s with serverAddress := s.baseUrl }.baseUrl = s.baseUrl ↔
      ¬ SlashesAlone (trimChars s.serverAddress.toList) ∧
        ¬ BlankBeforeSlashes (trimChars s.serverAddress.toList) := by
  rw [← String.toList_inj, toList_baseUrl, toList_baseUrl,
    normalChars_eq_self_iff (hasScheme_normalChars _), bareChars_eq_self_iff (hasScheme_normalChars _),
    ← bareChars_eq_nil_iff any, ← blank_bareChars_iff]
  constructor
  · rintro ⟨c, last, solid, noSlash⟩
    have left : bareChars s.serverAddress.toList ≠ [] := fun none => by
      rw [slash_normalChars_iff.2 none] at last
      rw [← Option.some.inj last] at noSlash
      cases noSlash
    rw [getLast?_normalChars left] at last
    refine ⟨left, fun ⟨b, last', blank⟩ => ?_⟩
    rw [last] at last'
    rw [Option.some.inj last', blank] at solid
    cases solid
  · rintro ⟨left, noBlank⟩
    have last := List.getLast?_eq_some_getLast left
    refine ⟨_, (getLast?_normalChars left).trans last, ?_, getLast?_rdropWhile last⟩
    exact Bool.eq_false_iff.2 fun blank => noBlank ⟨_, last, blank⟩

theorem trimChars_of_validate {s : AgentSettings} (valid : s.validate = .ok ()) :
    trimChars s.serverAddress.toList ≠ [] := by
  intro none
  rw [validate, if_pos (trimChars_eq_nil_iff.1 none)] at valid
  cases valid

end AgentSettings

/-! ## Where batches go -/

namespace Agent

/-- Batches are posted to this URL: to its host, with what a client asks for there. -/
structure Transport.PostsTo (t : Transport) (url : String) : Prop where
  peer : peer? t.address = peer? url
  request : ∀ rs, (t.request? rs).map (fun r => (r.method, r.target)) =
    (restOf? url).map fun rest => ("POST", targetOf rest)

theorem prefix_append_iff {scheme cs : List Char} (long : scheme.length ≤ cs.length)
    (more : List Char) : scheme.isPrefixOf (cs ++ more) = scheme.isPrefixOf cs := by
  rw [Bool.eq_iff_iff, List.isPrefixOf_iff_prefix, List.isPrefixOf_iff_prefix]
  exact ⟨fun pre => List.prefix_of_prefix_length_le pre (List.prefix_append _ _) long,
    fun pre => pre.trans (List.prefix_append _ _)⟩

/-- What stands before the first slash is the same with a slash and more behind the text. -/
theorem takeWhile_slash (cs more : List Char) :
    (cs ++ '/' :: more).takeWhile (· ≠ '/') = cs.takeWhile (· ≠ '/') := by
  rw [List.takeWhile_append]
  split
  · rename_i whole
    rw [List.takeWhile_cons_of_neg (by decide), List.append_nil]
    exact ((List.takeWhile_prefix _).eq_of_length whole).symm
  · rfl

theorem peer?_append {url : String} (scheme : AgentSettings.hasScheme url.toList = true) :
    peer? (url ++ batchPath) = peer? url := by
  have long : "http://".toList.length ≤ url.toList.length := by
    obtain ⟨rest, eq | eq⟩ := AgentSettings.exists_rest scheme <;> rw [eq, List.length_append] <;>
      exact Nat.le_add_right_of_le (by decide)
  have path : batchPath.toList = '/' :: "updates/".toList := by decide
  simp only [peer?, String.toList_append, path, prefix_append_iff long,
    List.drop_append_of_le_length long, takeWhile_slash]

theorem Transport.postsTo_of_kept {t : Transport} {url : String} (kept : t.address = url)
    (scheme : AgentSettings.hasScheme url.toList = true) : t.PostsTo (url ++ batchPath) where
  peer := by rw [kept, peer?_append scheme]
  request rs := by
    rw [Transport.request?, target?, kept, Option.map_map, Option.map_map]
    rfl

end Agent

/-- **Which addresses an agent can report to.** The base URL of valid settings has a scheme. It has
something behind that and no slash at its end, and the way to the collector keeps it and posts batches
to it with their path behind, unless the address is slashes alone. Made a base URL once more
it stays what it is, unless the address is that or has a blank before its last slashes. -/
theorem base_url_settles_iff (s : AgentSettings) (codec : Option BodyCodec)
    (valid : s.validate = .ok ()) :
    let address := Text.trimChars s.serverAddress.toList
    let transport := Agent.Transport.ofAddress s.baseUrl codec
    AgentSettings.hasScheme s.baseUrl.toList = true ∧
      (IsBaseUrl s.baseUrl ↔ ¬ SlashesAlone address) ∧
      (transport.address = s.baseUrl ↔ ¬ SlashesAlone address) ∧
      (¬ SlashesAlone address → transport.PostsTo (s.baseUrl ++ "/updates/")) ∧
      ({ s with serverAddress := s.baseUrl }.baseUrl = s.baseUrl ↔
        ¬ SlashesAlone address ∧ ¬ BlankBeforeSlashes address) := by
  intro address transport
  have any := AgentSettings.trimChars_of_validate valid
  have alone := not_congr (AgentSettings.bareChars_eq_nil_iff any)
  have kept : transport.address = s.baseUrl ↔ ¬ SlashesAlone address :=
    (s.ofAddress_baseUrl_iff codec).trans alone
  refine ⟨s.hasScheme_baseUrl, s.isBaseUrl_iff.trans alone, kept, fun other => ?_, s.baseUrl_again_iff any⟩
  exact Agent.Transport.postsTo_of_kept (kept.2 other) s.hasScheme_baseUrl

/-- An address with blanks around it and slashes at its end, and where its batches go. -/
theorem base_url_settles_iff_surrounded :
    let s : AgentSettings := { AgentSettings.default with serverAddress := " collector:8080/base// " }
    let transport := Agent.Transport.ofAddress s.baseUrl none
    s.validate = .ok () ∧ s.baseUrl = "http://collector:8080/base" ∧ IsBaseUrl s.baseUrl ∧
      Agent.peer? transport.address = some ⟨"collector", "8080"⟩ ∧
      (∀ rs, (transport.request? rs).map (fun r => (r.method, r.target)) =
        some ("POST", "/base/updates/")) ∧
      { s with serverAddress := s.baseUrl }.baseUrl = s.baseUrl := by
  intro s transport
  have valid : s.validate = .ok () := by decide
  have url : s.baseUrl = "http://collector:8080/base" := by decide +kernel
  have alone : ¬ SlashesAlone (Text.trimChars s.serverAddress.toList) := by
    rintro ⟨n, slashes⟩
    have first : (Text.trimChars s.serverAddress.toList).head? = some 'c' := by decide
    rw [slashes, List.replicate_succ, List.head?_cons] at first
    exact absurd first (by decide)
  have before : ¬ BlankBeforeSlashes (Text.trimChars s.serverAddress.toList) := by
    rintro ⟨text, b, n, blank, eq⟩
    have solid : (Text.trimChars s.serverAddress.toList).all (fun c => !Text.isBlank c) = true := by
      decide
    have here := List.all_eq_true.1 solid b (eq ▸ List.mem_append_right _ List.mem_cons_self)
    rw [blank] at here
    cases here
  obtain ⟨-, base, -, posts, again⟩ := base_url_settles_iff s none valid
  have posted := posts alone
  refine ⟨valid, url, base.2 alone, ?_, fun rs => ?_, again.2 ⟨alone, before⟩⟩
  · rw [posted.peer, url]
    decide +kernel
  · rw [posted.request rs, url]
    decide +kernel

/-- Slashes alone pass as an address: the base URL is a bare scheme, and the way to the collector loses
its slashes too. A blank before the last slash is left at the end, and goes when the base URL is made again. -/
theorem base_url_of_slashes :
    let s : AgentSettings := { AgentSettings.default with serverAddress := "///" }
    let t : AgentSettings := { AgentSettings.default with serverAddress := "collector /" }
    (s.validate = .ok () ∧ s.baseUrl = "http://" ∧ ¬ IsBaseUrl s.baseUrl ∧
        (Agent.Transport.ofAddress s.baseUrl none).address = "http:" ∧
        { s with serverAddress := s.baseUrl }.baseUrl = "http://http:") ∧
      t.validate = .ok () ∧ t.baseUrl = "http://collector " ∧
        { t with serverAddress := t.baseUrl }.baseUrl = "http://collector" := by
  intro s t
  have url : s.baseUrl = "http://" := by decide +kernel
  refine ⟨⟨by decide, url, fun base => ?_, by decide +kernel, by decide +kernel⟩, by decide,
    by decide +kernel, by decide +kernel⟩
  rw [url] at base
  exact base.noSlash (by decide)

end Telemetry
