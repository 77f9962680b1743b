import SimpleForwarder.Lib.HostPort
import SimpleForwarder.ReferenceCrates
import SimpleForwarder.Rules

/-!
Contract: which upstream URLs lead to an address that can be connected to
(`ProxyConfig::from_url`, `parse_rules` in `main.rs`).

Owns: the grammar of the URLs that name a host and a port (`IsUpstreamUrl`), and
that what `from_url` accepts is usable exactly when the URL has no colon behind
its scheme or is one of the grammar, for a single URL and for a rule list that
loads (`fromUrl_usable_iff`).

The grammar speaks of the text of the URL alone: what stands around it, the
scheme, the host, a colon and the port.

Does not own: name resolution and the connection itself.
-/

namespace SimpleForwarder

open RustText IpText HostPort

/-! ## The grammar -/

def upstreamScheme : ProxyType → Text
  | .socks5 => "socks5://".toList
  | .socks5h => "socks5h://".toList
  | .http => "http://".toList

/-- White space, then backticks, then quotes. -/
def IsOpening (text : Text) : Prop :=
  ∃ blanks ticks quotes, text = blanks ++ (ticks ++ quotes) ∧
    (∀ char ∈ blanks, isWhitespace char = true) ∧ (∀ char ∈ ticks, char = backtick) ∧
    ∀ char ∈ quotes, char = doubleQuote

/-- Quotes, then backticks, then white space. -/
def IsClosing (text : Text) : Prop :=
  ∃ quotes ticks blanks, text = quotes ++ (ticks ++ blanks) ∧
    (∀ char ∈ quotes, char = doubleQuote) ∧ (∀ char ∈ ticks, char = backtick) ∧
    ∀ char ∈ blanks, isWhitespace char = true

/-- A colon stands somewhere behind the scheme. -/
def HasLaterColon (url : Text) : Prop :=
  ∃ opening proxyType before after, IsOpening opening ∧
    url = opening ++ (upstreamScheme proxyType ++ (before ++ ':' :: after))

/-- `scheme://host:port`, and around it nothing but what opens and closes it. -/
def IsUpstreamUrl (url : Text) : Prop :=
  ∃ opening proxyType host port closing, IsOpening opening ∧ IsHost host ∧ IsPort port ∧
    IsClosing closing ∧
    url = opening ++ (upstreamScheme proxyType ++ (host ++ ':' :: port) ++ closing)

/-- What `from_url` accepts of the URL is a host and a port. -/
def AcceptsOnlyUsable (url : Text) : Prop :=
  ∀ config, ProxyConfig.fromUrl url = .ok config → IsHostPort config.addr

/-! ## The three trims -/

/-- The URL after the three trims. -/
def trimUrl (url : Text) : Text :=
  trimMatches (· = doubleQuote) (trimMatches (· = backtick) (trim url))

/-- A character that no trim takes. -/
structure IsKept (char : Char) : Prop where
  solid : isWhitespace char = false
  notTick : decide (char = backtick) = false
  notQuote : decide (char = doubleQuote) = false

theorem trimUrl_encloses (url : Text) :
    ∃ opening closing, IsOpening opening ∧ IsClosing closing ∧
      url = opening ++ (trimUrl url ++ closing) := by
  obtain ⟨blanks, blanks', outer, isBlank, isBlank'⟩ := trimMatches_encloses isWhitespace url
  obtain ⟨ticks, ticks', middle, isTick, isTick'⟩ :=
    trimMatches_encloses (· = backtick) (trim url)
  obtain ⟨quotes, quotes', inner, isQuote, isQuote'⟩ :=
    trimMatches_encloses (· = doubleQuote) (trimMatches (· = backtick) (trim url))
  refine ⟨blanks ++ (ticks ++ quotes), quotes' ++ (ticks' ++ blanks'),
    ⟨blanks, ticks, quotes, rfl, isBlank, by simpa using isTick, by simpa using isQuote⟩,
    ⟨quotes', ticks', blanks', rfl, by simpa using isQuote', by simpa using isTick', isBlank'⟩, ?_⟩
  calc url = blanks ++ (trim url ++ blanks') := outer
    _ = blanks ++ (ticks ++ (trimMatches (· = backtick) (trim url) ++ ticks') ++ blanks') := by
        rw [← middle]
    _ = blanks ++ (ticks ++ (quotes ++ (trimUrl url ++ quotes') ++ ticks') ++ blanks') := by
        rw [trimUrl, ← inner]
    _ = blanks ++ (ticks ++ quotes) ++ (trimUrl url ++ (quotes' ++ (ticks' ++ blanks'))) := by
        simp only [List.append_assoc]

/-- The first character of a text behind others. -/
theorem head?_append_cases {front text : Text} {char : Char}
    (first : (front ++ text).head? = some char) : char ∈ front ∨ text.head? = some char := by
  cases front with
  | nil => exact .inr first
  | cons head front =>
      obtain rfl := Option.some.inj first
      exact .inl List.mem_cons_self

section Trimming

variable {opening core : Text}

/-- What opens a URL is trimmed off. -/
theorem trimUrl_opening (isOpening : IsOpening opening) (nonempty : core ≠ [])
    (first : ∀ char, core.head? = some char → IsKept char)
    (last : ∀ char, core.getLast? = some char → IsKept char) (after : Text) :
    trimUrl (opening ++ (core ++ after)) =
      core ++ trimEndMatches (· = doubleQuote)
        (trimEndMatches (· = backtick) (trimEndMatches isWhitespace after)) := by
  obtain ⟨blanks, ticks, quotes, rfl, isBlank, isTick, isQuote⟩ := isOpening
  -- The last character of each kept text is that of the core.
  have lastOf : ∀ (front : Text) char, (front ++ core).getLast? = some char → IsKept char := by
    intro front char isLast
    rw [List.getLast?_append_of_ne_nil _ nonempty] at isLast
    exact last char isLast
  have isQuoted : quotes ++ core ≠ [] := List.append_ne_nil_of_right_ne_nil _ nonempty
  have isTicked : ticks ++ (quotes ++ core) ≠ [] := List.append_ne_nil_of_right_ne_nil _ isQuoted
  have blanksOff : trim (blanks ++ ((ticks ++ (quotes ++ core)) ++ after)) =
      (ticks ++ (quotes ++ core)) ++ trimEndMatches isWhitespace after := by
    apply trimMatches_around isBlank _ _ isTicked
    · intro char isFirst
      rcases head?_append_cases isFirst with inTicks | isFirst
      · rw [isTick char inTicks]
        decide
      · rcases head?_append_cases isFirst with inQuotes | isFirst
        · rw [isQuote char inQuotes]
          decide
        · exact (first char isFirst).solid
    · intro char isLast
      rw [← List.append_assoc] at isLast
      exact (lastOf _ char isLast).solid
  have ticksOff : ∀ rest, trimMatches (· = backtick) (ticks ++ ((quotes ++ core) ++ rest)) =
      (quotes ++ core) ++ trimEndMatches (· = backtick) rest := by
    apply trimMatches_around (by simpa using isTick) _ _ isQuoted
    · intro char isFirst
      rcases head?_append_cases isFirst with inQuotes | isFirst
      · rw [isQuote char inQuotes]
        decide
      · exact (first char isFirst).notTick
    · intro char isLast
      exact (lastOf _ char isLast).notTick
  have quotesOff : ∀ rest, trimMatches (· = doubleQuote) (quotes ++ (core ++ rest)) =
      core ++ trimEndMatches (· = doubleQuote) rest :=
    trimMatches_around (by simpa using isQuote) (fun char isFirst => (first char isFirst).notQuote)
      (fun char isLast => (last char isLast).notQuote) nonempty
  rw [show blanks ++ (ticks ++ quotes) ++ (core ++ after) =
    blanks ++ ((ticks ++ (quotes ++ core)) ++ after) by simp only [List.append_assoc], trimUrl,
    blanksOff, List.append_assoc ticks, ticksOff, List.append_assoc quotes, quotesOff]

/-- What closes a URL is trimmed off. -/
theorem trimEndMatches_closing {closing : Text} (isClosing : IsClosing closing) :
    trimEndMatches (· = doubleQuote)
      (trimEndMatches (· = backtick) (trimEndMatches isWhitespace closing)) = [] := by
  obtain ⟨quotes, ticks, blanks, rfl, isQuote, isTick, isBlank⟩ := isClosing
  have blanksOff : trimEndMatches isWhitespace ((quotes ++ ticks) ++ blanks) = quotes ++ ticks := by
    rw [trimEndMatches_append_of_stop, trimEndMatches_eq_nil isBlank, List.append_nil]
    intro char isLast
    rcases List.mem_append.mp (List.mem_of_getLast? isLast) with inQuotes | inTicks
    · rw [isQuote char inQuotes]
      decide
    · rw [isTick char inTicks]
      decide
  have ticksOff : trimEndMatches (· = backtick) (quotes ++ ticks) = quotes := by
    rw [trimEndMatches_append_of_stop, trimEndMatches_eq_nil (by simpa using isTick),
      List.append_nil]
    intro char isLast
    rw [isQuote char (List.mem_of_getLast? isLast)]
    decide
  rw [← List.append_assoc, blanksOff, ticksOff]
  exact trimEndMatches_eq_nil (by simpa using isQuote)

end Trimming

/-! ## What is accepted -/

theorem stripPrefix_eq_some_iff {start text rest : Text} :
    stripPrefix start text = some rest ↔ text = start ++ rest := by
  unfold stripPrefix
  constructor
  · intro stripped
    split at stripped
    next starts =>
      obtain ⟨behind, rfl⟩ := List.isPrefixOf_iff_prefix.mp starts
      rw [← Option.some.inj stripped, List.drop_left]
    next => exact absurd stripped nofun
  · rintro rfl
    rw [if_pos (List.isPrefixOf_iff_prefix.mpr (List.prefix_append _ _)), List.drop_left]

/-- No scheme is the beginning of another. -/
theorem splitScheme_eq_some_iff {text rest : Text} {proxyType : ProxyType} :
    ProxyConfig.splitScheme text = some (proxyType, rest) ↔
      text = upstreamScheme proxyType ++ rest := by
  constructor
  · intro accepted
    unfold ProxyConfig.splitScheme at accepted
    split at accepted
    next behind stripped =>
      cases accepted
      exact stripPrefix_eq_some_iff.mp stripped
    next =>
      split at accepted
      next behind stripped =>
        cases accepted
        exact stripPrefix_eq_some_iff.mp stripped
      next =>
        obtain ⟨behind, stripped, same⟩ := Option.map_eq_some_iff.mp accepted
        cases same
        exact stripPrefix_eq_some_iff.mp stripped
  · rintro rfl
    cases proxyType with
    | socks5 => rfl
    | socks5h => rfl
    | http => rfl

/-- The only demand on the text behind the scheme is a colon. -/
theorem fromUrl_eq_ok_iff {url : Text} {config : ProxyConfig} :
    ProxyConfig.fromUrl url = .ok config ↔
      trimUrl url = upstreamScheme config.proxyType ++ config.addr ∧ ':' ∈ config.addr := by
  rw [← splitScheme_eq_some_iff]
  unfold ProxyConfig.fromUrl
  dsimp only
  rw [← trimUrl]
  cases split : ProxyConfig.splitScheme (trimUrl url) with
  | none => simp
  | some parts =>
      obtain ⟨proxyType, rest⟩ := parts
      dsimp only
      by_cases colon : ':' ∈ rest
      · rw [if_pos colon]
        constructor
        · intro accepted
          cases accepted
          exact ⟨rfl, colon⟩
        · intro shape
          cases shape.1
          rfl
      · rw [if_neg colon]
        constructor
        · intro accepted
          exact absurd accepted nofun
        · intro shape
          cases shape.1
          exact absurd shape.2 colon

/-- An accepted URL is the scheme and the address, with what opens and closes it. -/
theorem url_of_ok {url : Text} {config : ProxyConfig}
    (accepted : ProxyConfig.fromUrl url = .ok config) :
    ∃ opening closing, IsOpening opening ∧ IsClosing closing ∧
      url = opening ++ (upstreamScheme config.proxyType ++ config.addr ++ closing) := by
  obtain ⟨opening, closing, isOpening, isClosing, shape⟩ := trimUrl_encloses url
  rw [(fromUrl_eq_ok_iff.mp accepted).1] at shape
  exact ⟨opening, closing, isOpening, isClosing, shape⟩

theorem hasLaterColon_of_ok {url : Text} {config : ProxyConfig}
    (accepted : ProxyConfig.fromUrl url = .ok config) : HasLaterColon url := by
  obtain ⟨opening, closing, isOpening, -, shape⟩ := url_of_ok accepted
  obtain ⟨before, after, split⟩ := List.append_of_mem (fromUrl_eq_ok_iff.mp accepted).2
  refine ⟨opening, config.proxyType, before, after ++ closing, isOpening, ?_⟩
  rw [shape, split]
  simp only [List.append_assoc, List.cons_append]

/-- A scheme starts with a letter. -/
theorem isKept_scheme {proxyType : ProxyType} (rest : Text) :
    ∀ char, (upstreamScheme proxyType ++ rest).head? = some char → IsKept char := by
  intro char first
  cases proxyType with
  | socks5 => cases first; exact ⟨by decide, by decide, by decide⟩
  | socks5h => cases first; exact ⟨by decide, by decide, by decide⟩
  | http => cases first; exact ⟨by decide, by decide, by decide⟩

theorem upstreamScheme_append_ne_nil {proxyType : ProxyType} (rest : Text) :
    upstreamScheme proxyType ++ rest ≠ [] := by
  cases proxyType <;> exact nofun

/-- A colon behind the scheme is enough. -/
theorem ok_of_hasLaterColon {url : Text} (later : HasLaterColon url) :
    ∃ config, ProxyConfig.fromUrl url = .ok config := by
  obtain ⟨opening, proxyType, before, after, isOpening, rfl⟩ := later
  have last : ∀ char, (upstreamScheme proxyType ++ (before ++ [':'])).getLast? = some char →
      IsKept char := by
    intro char isLast
    rw [← List.append_assoc, List.getLast?_concat] at isLast
    cases isLast
    exact ⟨by decide, by decide, by decide⟩
  have trimmed := trimUrl_opening isOpening (upstreamScheme_append_ne_nil _) (isKept_scheme _) last
    after
  rw [List.append_assoc (upstreamScheme proxyType), List.append_assoc (upstreamScheme proxyType),
    List.append_assoc before, List.append_assoc before] at trimmed
  refine ⟨⟨proxyType, _⟩, fromUrl_eq_ok_iff.mpr ⟨trimmed, ?_⟩⟩
  exact List.mem_append_right _ List.mem_cons_self

theorem isKept_digit {char : Char} (digit : char.isDigit = true) : IsKept char where
  solid := isWhitespace_of_digitValue (digitValue_of_isDigit digit)
  notTick := by
    rw [decide_eq_false_iff_not]
    rintro rfl
    exact absurd digit (by decide)
  notQuote := by
    rw [decide_eq_false_iff_not]
    rintro rfl
    exact absurd digit (by decide)

/-- What ends in a port ends with a digit. -/
theorem isKept_of_isPort {text port : Text} (isPort : IsPort port) :
    ∀ char, (text ++ ':' :: port).getLast? = some char → IsKept char := by
  intro char last
  rw [List.getLast?_append_of_ne_nil _ (List.cons_ne_nil _ _)] at last
  rcases List.mem_cons.mp (List.mem_of_getLast? last) with rfl | inPort
  · exact ⟨by decide, by decide, by decide⟩
  · exact isKept_digit (List.all_eq_true.mp isPort.1 char inPort)

/-- A URL of the grammar is accepted with its host and port. -/
theorem isHostPort_of_isUpstreamUrl {url : Text} {config : ProxyConfig}
    (isUrl : IsUpstreamUrl url) (accepted : ProxyConfig.fromUrl url = .ok config) :
    IsHostPort config.addr := by
  obtain ⟨opening, proxyType, host, port, closing, isOpening, isHost, isPort, isClosing, rfl⟩ :=
    isUrl
  have last : ∀ char, (upstreamScheme proxyType ++ (host ++ ':' :: port)).getLast? = some char →
      IsKept char := by
    rw [← List.append_assoc]
    exact isKept_of_isPort isPort
  have trimmed := trimUrl_opening isOpening (upstreamScheme_append_ne_nil _) (isKept_scheme _) last
    closing
  rw [trimEndMatches_closing isClosing, List.append_nil] at trimmed
  have own : ProxyConfig.fromUrl _ = .ok ⟨proxyType, host ++ ':' :: port⟩ :=
    fromUrl_eq_ok_iff.mpr ⟨trimmed, List.mem_append_right _ List.mem_cons_self⟩
  obtain rfl := Except.ok.inj (accepted.symm.trans own)
  exact ⟨host, port, rfl, isHost, isPort⟩

theorem isUpstreamUrl_of_isHostPort {url : Text} {config : ProxyConfig}
    (accepted : ProxyConfig.fromUrl url = .ok config) (usable : IsHostPort config.addr) :
    IsUpstreamUrl url := by
  obtain ⟨opening, closing, isOpening, isClosing, shape⟩ := url_of_ok accepted
  obtain ⟨host, port, isAddr, isHost, isPort⟩ := usable
  rw [isAddr] at shape
  exact ⟨opening, config.proxyType, host, port, closing, isOpening, isHost, isPort, isClosing,
    shape⟩

/-! ## Usable upstreams -/

theorem acceptsOnlyUsable_iff (url : Text) :
    AcceptsOnlyUsable url ↔ (HasLaterColon url → IsUpstreamUrl url) := by
  constructor
  · intro usable later
    obtain ⟨config, accepted⟩ := ok_of_hasLaterColon later
    exact isUpstreamUrl_of_isHostPort accepted (usable config accepted)
  · intro meets config accepted
    exact isHostPort_of_isUpstreamUrl (meets (hasLaterColon_of_ok accepted)) accepted

/-- The rules of a list that loads have usable upstreams exactly when each of
its URLs is of the grammar. -/
theorem parsed_usable_iff {crates : Crates} {rules : List Rule}
    {parsed : List (RuleMatcher × ProxyConfig)}
    (accepted : rules.mapM (parseRule crates) = .ok parsed) :
    (∀ rule ∈ parsed, IsHostPort rule.2.addr) ↔
      ∀ rule ∈ rules, IsUpstreamUrl rule.forwardTo := by
  induction rules generalizing parsed with
  | nil =>
      cases accepted
      simp
  | cons rule rules inductionHypothesis =>
      obtain ⟨first, rest, rfl, head, tail⟩ := mapM_parseRule_cons accepted
      have ofUrl := (parseRule_eq_ok head).2
      rw [List.forall_mem_cons, List.forall_mem_cons, inductionHypothesis tail]
      exact and_congr_left' ⟨isUpstreamUrl_of_isHostPort ofUrl,
        fun isUrl => isHostPort_of_isUpstreamUrl isUrl ofUrl⟩

/-- What `from_url` accepts of a URL is usable exactly when the URL has no colon
behind its scheme, or is `scheme://host:port`; and the upstreams of a rule list
that loads are usable exactly when each of its URLs is. -/
theorem fromUrl_usable_iff (url : Text) (crates : Crates) (config : Config) :
    (AcceptsOnlyUsable url ↔ ¬ HasLaterColon url ∨ IsUpstreamUrl url) ∧
      ∀ parsed, parseRules crates config = .ok parsed →
        ((∀ rule ∈ parsed, IsHostPort rule.2.addr) ↔
          ∀ rule ∈ config.rules, IsUpstreamUrl rule.forwardTo) :=
  ⟨(acceptsOnlyUsable_iff url).trans imp_iff_not_or, fun _ accepted => parsed_usable_iff accepted⟩

theorem isOpening_blanks {blanks : Text} (isBlank : ∀ char ∈ blanks, isWhitespace char = true) :
    IsOpening blanks :=
  ⟨blanks, [], [], by simp, isBlank, nofun, nofun⟩

theorem isClosing_nil : IsClosing [] := ⟨[], [], [], rfl, nofun, nofun, nofun⟩

/-- A rule list with the URLs of an IPv4 and of a named upstream. -/
theorem fromUrl_usable_iff_loaded :
    ∃ parsed, parseRules referenceCrates
        ⟨[⟨["*.example".toList], "socks5://127.0.0.1:1080".toList⟩,
          ⟨["*".toList], " http://localhost:8118".toList⟩]⟩ = .ok parsed ∧
      ∀ rule ∈ parsed, IsHostPort rule.2.addr := by
  refine ⟨_, rfl, ((fromUrl_usable_iff [] referenceCrates
    ⟨[⟨["*.example".toList], "socks5://127.0.0.1:1080".toList⟩,
      ⟨["*".toList], " http://localhost:8118".toList⟩]⟩).2 _ rfl).mpr ?_⟩
  intro rule member
  rcases List.mem_cons.mp member with rfl | member
  · exact ⟨[], .socks5, "127.0.0.1".toList, "1080".toList, [], isOpening_blanks nofun,
      hostCheck_iff.mp (by decide +kernel), by decide +kernel, isClosing_nil, by decide +kernel⟩
  · obtain rfl := List.mem_singleton.mp member
    exact ⟨" ".toList, .http, "localhost".toList, "8118".toList, [],
      isOpening_blanks (by simp [isWhitespace]), hostCheck_iff.mp (by decide +kernel),
      by decide +kernel, isClosing_nil, by decide +kernel⟩

theorem not_acceptsOnlyUsable {url : Text} {config : ProxyConfig}
    (accepted : ProxyConfig.fromUrl url = .ok config)
    (unusable : hostPortCheck config.addr = false) : ¬ AcceptsOnlyUsable url := by
  intro usable
  have checked := hostPortCheck_iff.mpr (usable config accepted)
  rw [unusable] at checked
  exact absurd checked Bool.false_ne_true

/-- Accepted without a usable address: an IPv6 literal without a port, no port,
no host, a port out of range, a path. -/
theorem fromUrl_accepts_unusable :
    ¬ AcceptsOnlyUsable "socks5://[::1]".toList ∧ ¬ AcceptsOnlyUsable "socks5h://proxy:".toList ∧
      ¬ AcceptsOnlyUsable "socks5://:1080".toList ∧
      ¬ AcceptsOnlyUsable "http://proxy:99999".toList ∧
      ¬ AcceptsOnlyUsable "http://proxy:8080/".toList := by
  have fails : ∀ (url : Text) (config : ProxyConfig), ProxyConfig.fromUrl url = .ok config →
      hostPortCheck config.addr = false → ¬ AcceptsOnlyUsable url :=
    fun url config => not_acceptsOnlyUsable
  refine ⟨?_, ?_, ?_, ?_, ?_⟩
  · exact fails _ ⟨.socks5, "[::1]".toList⟩ (by decide +kernel) (by decide +kernel)
  · exact fails _ ⟨.socks5h, "proxy:".toList⟩ (by decide +kernel) (by decide +kernel)
  · exact fails _ ⟨.socks5, ":1080".toList⟩ (by decide +kernel) (by decide +kernel)
  · exact fails _ ⟨.http, "proxy:99999".toList⟩ (by decide +kernel) (by decide +kernel)
  · exact fails _ ⟨.http, "proxy:8080/".toList⟩ (by decide +kernel) (by decide +kernel)

end SimpleForwarder
