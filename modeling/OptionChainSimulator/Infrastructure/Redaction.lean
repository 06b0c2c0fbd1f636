import Mathlib.Tactic
import Mathlib.Data.List.TakeWhile
import OptionChainSimulator.Infrastructure.Config

namespace OptionChainSimulator.Infrastructure

open Foundation Utils

/-! Credentials kept out of logs and errors: the userinfo of every URL in a text is masked, up to
the last `@` before a whitespace. -/

abbrev Text := List Char

def schemeEnd : Text := [':', '/', '/']

def mask : Text := ['*', '*', '*', '@']

/-- `find("://")`: the text up to and with the first one, and what follows it. -/
def splitScheme : Text → Option (Text × Text)
  | [] => none
  | first :: rest =>
      if schemeEnd <+: first :: rest then some (schemeEnd, rest.drop 2)
      else (splitScheme rest).map fun split => (first :: split.1, split.2)

/-- `rfind('@')`: what follows the last one. -/
def afterLastAt : Text → Option Text
  | [] => none
  | first :: rest =>
      match afterLastAt rest with
      | some tail => some tail
      | none => if first = '@' then some rest else none

/-- What may hold credentials: the text up to the next whitespace. -/
def candidate (text : Text) : Text := text.takeWhile fun c => !isWhitespace c

def beyond (text : Text) : Text := text.dropWhile fun c => !isWhitespace c

/-- A text that ends with its first `://`. -/
inductive Closes : Text → Prop where
  | here : Closes schemeEnd
  | there {first : Char} {before : Text} (elsewhere : ¬ schemeEnd <+: first :: before)
      (closes : Closes before) : Closes (first :: before)

theorem Closes.length {before : Text} (closes : Closes before) : 3 ≤ before.length := by
  induction closes with
  | here => exact le_rfl
  | there elsewhere closes ih => exact Nat.le_succ_of_le ih

theorem splitScheme_eq_some {text before rest : Text}
    (split : splitScheme text = some (before, rest)) : text = before ++ rest ∧ Closes before := by
  induction text generalizing before rest with
  | nil => cases split
  | cons first text ih =>
      unfold splitScheme at split
      split_ifs at split with here
      · cases split
        obtain ⟨tail, parts⟩ := here
        obtain ⟨rfl, rfl⟩ := List.cons_eq_cons.mp parts
        exact ⟨rfl, .here⟩
      · obtain ⟨⟨inner, remaining⟩, found, same⟩ := Option.map_eq_some_iff.mp split
        cases same
        obtain ⟨rfl, closes⟩ := ih found
        refine ⟨rfl, .there (fun early => here ?_) closes⟩
        exact early.trans (List.prefix_append _ _)

theorem Closes.splitScheme {before : Text} (closes : Closes before) (rest : Text) :
    splitScheme (before ++ rest) = some (before, rest) := by
  induction closes with
  | here => rfl
  | @there first before elsewhere closes ih =>
      have late : ¬ schemeEnd <+: first :: (before ++ rest) := by
        intro early
        apply elsewhere
        apply List.prefix_of_prefix_length_le early (List.prefix_append (first :: before) rest)
        exact Nat.le_succ_of_le closes.length
      rw [List.cons_append, Infrastructure.splitScheme, if_neg late, ih]
      rfl

theorem splitScheme_shorter {text before rest : Text}
    (split : splitScheme text = some (before, rest)) : rest.length < text.length := by
  obtain ⟨rfl, closes⟩ := splitScheme_eq_some split
  have long := closes.length
  rw [List.length_append]
  omega

theorem afterLastAt_eq_some {text tail : Text} (found : afterLastAt text = some tail) :
    (∃ hidden, text = hidden ++ '@' :: tail) ∧ afterLastAt tail = none := by
  induction text with
  | nil => cases found
  | cons first rest ih =>
      unfold afterLastAt at found
      split at found
      next later held =>
        cases found
        obtain ⟨⟨hidden, parts⟩, last⟩ := ih held
        exact ⟨⟨first :: hidden, by rw [parts]; rfl⟩, last⟩
      next none_ =>
        split_ifs at found with same
        cases found
        exact ⟨⟨[], by rw [same]; rfl⟩, none_⟩

theorem candidate_append_beyond (text : Text) : candidate text ++ beyond text = text :=
  List.takeWhile_append_dropWhile

theorem masked_shorter {rest tail : Text} (masked : afterLastAt (candidate rest) = some tail) :
    (tail ++ beyond rest).length < rest.length := by
  obtain ⟨⟨hidden, parts⟩, -⟩ := afterLastAt_eq_some masked
  have whole := congrArg List.length (candidate_append_beyond rest)
  rw [parts] at whole
  simp only [List.length_append, List.length_cons] at whole ⊢
  omega

/-- `redact_userinfo`. -/
def redactUserinfo (text : Text) : Text :=
  match _ : splitScheme text with
  | some (before, rest) =>
      match _ : afterLastAt (candidate rest) with
      | some tail => before ++ mask ++ redactUserinfo (tail ++ beyond rest)
      | none => before ++ redactUserinfo rest
  | none => text
termination_by text.length
decreasing_by
  · have shorter := splitScheme_shorter ‹splitScheme text = _›
    exact (masked_shorter ‹afterLastAt (candidate rest) = _›).trans shorter
  · exact splitScheme_shorter ‹splitScheme text = _›

/-- `redact_uri`: of a text that is one URI, whitespace and all. -/
def redactUri (uri : Text) : Text :=
  match splitScheme uri with
  | some (before, rest) =>
      match afterLastAt rest with
      | some tail => before ++ mask ++ tail
      | none => uri
  | none => uri

section Equations

variable {text before rest tail : Text}

theorem redactUserinfo_masked (found : splitScheme text = some (before, rest))
    (masked : afterLastAt (candidate rest) = some tail) :
    redactUserinfo text = before ++ mask ++ redactUserinfo (tail ++ beyond rest) := by
  rw [redactUserinfo]
  split
  next first remaining again =>
    rw [found] at again
    cases again
    split
    next other held =>
      rw [masked] at held
      cases held
      rfl
    next missing =>
      rw [masked] at missing
      cases missing
  next missing =>
    rw [found] at missing
    cases missing

theorem redactUserinfo_plain (found : splitScheme text = some (before, rest))
    (plain : afterLastAt (candidate rest) = none) :
    redactUserinfo text = before ++ redactUserinfo rest := by
  rw [redactUserinfo]
  split
  next first remaining again =>
    rw [found] at again
    cases again
    split
    next other held =>
      rw [plain] at held
      cases held
    next => rfl
  next missing =>
    rw [found] at missing
    cases missing

theorem redactUserinfo_none (absent : splitScheme text = none) : redactUserinfo text = text := by
  rw [redactUserinfo]
  split
  next first remaining again =>
    rw [absent] at again
    cases again
  next => rfl

end Equations

section Splitting

variable {text before rest tail hidden : Text}

theorem splitScheme_eq_none {first : Char} (absent : splitScheme (first :: text) = none) :
    ¬ schemeEnd <+: first :: text ∧ splitScheme text = none := by
  unfold splitScheme at absent
  split_ifs at absent with here
  exact ⟨here, Option.map_eq_none_iff.mp absent⟩

/-- After a text without a `://`, the next one is the first. -/
theorem closes_append (absent : splitScheme text = none) : Closes (text ++ schemeEnd) := by
  induction text with
  | nil => exact .here
  | cons first text ih =>
      obtain ⟨elsewhere, absent⟩ := splitScheme_eq_none absent
      refine .there ?_ (ih absent)
      intro early
      obtain ⟨tail, parts⟩ := early
      match text with
      | [] => simp [schemeEnd] at parts
      | [second] => simp [schemeEnd] at parts
      | second :: third :: text =>
          simp only [schemeEnd, List.cons_append, List.nil_append, List.cons.injEq] at parts
          obtain ⟨rfl, rfl, rfl, -⟩ := parts
          exact elsewhere ⟨text, rfl⟩

/-- Nothing, or a whitespace first. -/
def BlankLed : Text → Prop
  | [] => True
  | first :: _ => isWhitespace first

theorem blankLed_beyond (text : Text) : BlankLed (beyond text) := by
  unfold beyond
  induction text with
  | nil => trivial
  | cons first text ih =>
      rw [List.dropWhile_cons]
      split
      next => exact ih
      next blank =>
        simp only [Bool.not_eq_true, Bool.not_eq_false'] at blank
        exact blank

/-- No `://` runs across a whitespace. -/
theorem splitScheme_append (absent : splitScheme text = none) (led : BlankLed tail) :
    splitScheme (text ++ tail) =
      (splitScheme tail).map fun split => (text ++ split.1, split.2) := by
  induction text with
  | nil => simp
  | cons first text ih =>
      obtain ⟨elsewhere, absent⟩ := splitScheme_eq_none absent
      have late : ¬ schemeEnd <+: first :: (text ++ tail) := by
        intro early
        obtain ⟨rest, parts⟩ := early
        match text, tail with
        | [], [] => simp [schemeEnd] at parts
        | [], blank :: tail =>
            simp only [schemeEnd, List.cons_append, List.nil_append, List.cons.injEq] at parts
            rw [← parts.2.1] at led
            exact absurd (show isWhitespace '/' = true from led) (by decide)
        | [second], [] => simp [schemeEnd] at parts
        | [second], blank :: tail =>
            simp only [schemeEnd, List.cons_append, List.nil_append, List.cons.injEq] at parts
            rw [← parts.2.2.1] at led
            exact absurd (show isWhitespace '/' = true from led) (by decide)
        | second :: third :: text, tail =>
            simp only [schemeEnd, List.cons_append, List.nil_append, List.cons.injEq] at parts
            obtain ⟨rfl, rfl, rfl, -⟩ := parts
            exact elsewhere ⟨text, rfl⟩
      rw [List.cons_append, splitScheme, if_neg late, ih absent, Option.map_map]
      rfl

theorem afterLastAt_append :
    afterLastAt (hidden ++ '@' :: tail) = some ((afterLastAt tail).getD tail) := by
  induction hidden with
  | nil =>
      rw [List.nil_append, afterLastAt]
      cases afterLastAt tail with
      | none => rfl
      | some later => rfl
  | cons first hidden ih =>
      rw [List.cons_append, afterLastAt, ih]

end Splitting

section Candidates

variable {text front tail : Text}

/-- No whitespace in it. -/
def Unbroken (text : Text) : Prop := ∀ c ∈ text, isWhitespace c = false

instance (text : Text) : Decidable (Unbroken text) :=
  List.decidableBAll (fun c => isWhitespace c = false) text

theorem Unbroken.append (unbroken : Unbroken front) (tailUnbroken : Unbroken tail) :
    Unbroken (front ++ tail) := by
  intro c member
  cases List.mem_append.mp member with
  | inl left => exact unbroken c left
  | inr right => exact tailUnbroken c right

theorem candidate_append (unbroken : Unbroken front) :
    candidate (front ++ tail) = front ++ candidate tail :=
  List.takeWhile_append_of_pos fun c member => by rw [unbroken c member]; rfl

theorem beyond_append (unbroken : Unbroken front) : beyond (front ++ tail) = beyond tail :=
  List.dropWhile_append_of_pos fun c member => by rw [unbroken c member]; rfl

theorem unbroken_candidate (text : Text) : Unbroken (candidate text) := by
  intro c member
  have kept := List.mem_takeWhile_imp member
  simpa using kept

theorem candidate_of_blankLed (led : BlankLed text) : candidate text = [] := by
  cases text with
  | nil => rfl
  | cons first text =>
      have blank : isWhitespace first = true := led
      simp [candidate, blank]

theorem beyond_of_blankLed (led : BlankLed text) : beyond text = text := by
  cases text with
  | nil => rfl
  | cons first text =>
      have blank : isWhitespace first = true := led
      simp [beyond, blank]

/-- The first whitespace ends the candidate, whatever follows. -/
theorem candidate_of_broken (broken : ¬ Unbroken front) :
    candidate (front ++ tail) = candidate front ∧
      beyond (front ++ tail) = beyond front ++ tail := by
  induction front with
  | nil => exact absurd (fun c member => by cases member) broken
  | cons first front ih =>
      unfold candidate beyond at ih ⊢
      cases blank : isWhitespace first with
      | true => simp [blank]
      | false =>
          have rest : ¬ Unbroken front := by
            intro unbroken
            apply broken
            intro c member
            cases member with
            | head => exact blank
            | tail _ later => exact unbroken c later
          obtain ⟨cut, left⟩ := ih rest
          simp [blank, cut, left]

end Candidates

section Masking

variable {text before rest tail front : Text}

/-- What begins at a whitespace still does. -/
theorem blankLed_redactUserinfo (led : BlankLed text) : BlankLed (redactUserinfo text) := by
  cases split : splitScheme text with
  | none => rwa [redactUserinfo_none split]
  | some parts =>
      obtain ⟨before, rest⟩ := parts
      obtain ⟨rfl, closes⟩ := splitScheme_eq_some split
      have first : BlankLed before := by
        cases closes with
        | here => exact absurd (show isWhitespace ':' = true from led) (by decide)
        | there => exact led
      cases before with
      | nil => cases closes
      | cons blank before =>
          cases masked : afterLastAt (candidate rest) with
          | some tail =>
              rw [redactUserinfo_masked split masked]
              exact first
          | none =>
              rw [redactUserinfo_plain split masked]
              exact first

theorem afterLastAt_eq_none : afterLastAt text = none ↔ '@' ∉ text := by
  induction text with
  | nil => simp [afterLastAt]
  | cons first text ih =>
      rw [afterLastAt, List.mem_cons, not_or, ← ih]
      cases afterLastAt text with
      | some tail => simp
      | none => simp [eq_comm]

/-- An unbroken text without an `@` stays as it is before a whitespace. -/
theorem redactUserinfo_append (unbroken : Unbroken front) (plain : '@' ∉ front)
    (led : BlankLed tail) : redactUserinfo (front ++ tail) = front ++ redactUserinfo tail := by
  induction size : front.length using Nat.strong_induction_on generalizing front with
  | _ size ih =>
      subst size
      cases split : splitScheme front with
      | some parts =>
          obtain ⟨before, rest⟩ := parts
          have shorter := splitScheme_shorter split
          obtain ⟨rfl, closes⟩ := splitScheme_eq_some split
          have restUnbroken : Unbroken rest := fun c member =>
            unbroken c (List.mem_append_right before member)
          have restPlain : '@' ∉ rest := fun member => plain (List.mem_append_right before member)
          have parts : splitScheme (before ++ rest ++ tail) = some (before, rest ++ tail) := by
            rw [List.append_assoc]
            exact closes.splitScheme _
          have unmasked : afterLastAt (candidate (rest ++ tail)) = none := by
            rw [candidate_append restUnbroken, candidate_of_blankLed led, List.append_nil]
            exact afterLastAt_eq_none.mpr restPlain
          rw [redactUserinfo_plain parts unmasked,
            ih rest.length shorter restUnbroken restPlain rfl, List.append_assoc]
      | none =>
          have parts := splitScheme_append split led
          cases splitTail : splitScheme tail with
          | none =>
              rw [splitTail, Option.map_none] at parts
              rw [redactUserinfo_none parts, redactUserinfo_none splitTail]
          | some splits =>
              obtain ⟨before, rest⟩ := splits
              rw [splitTail, Option.map_some] at parts
              cases masked : afterLastAt (candidate rest) with
              | some last =>
                  rw [redactUserinfo_masked parts masked, redactUserinfo_masked splitTail masked]
                  simp only [List.append_assoc]
              | none =>
                  rw [redactUserinfo_plain parts masked, redactUserinfo_plain splitTail masked,
                    List.append_assoc]

/-- What a URL hides up to an `@` of its candidate has no part in what is shown. -/
theorem redactUserinfo_signed {before hidden after : Text} (closes : Closes before)
    (unbroken : Unbroken hidden) :
    redactUserinfo (before ++ (hidden ++ '@' :: after)) =
      before ++ mask ++
        redactUserinfo
          ((afterLastAt (candidate after)).getD (candidate after) ++ beyond after) := by
  have signed : Unbroken ['@'] := by decide
  have masked : afterLastAt (candidate (hidden ++ '@' :: after)) =
      some ((afterLastAt (candidate after)).getD (candidate after)) := by
    rw [candidate_append unbroken, ← List.singleton_append, candidate_append signed]
    exact afterLastAt_append
  have rest : beyond (hidden ++ '@' :: after) = beyond after := by
    rw [beyond_append unbroken, ← List.singleton_append, beyond_append signed]
  rw [redactUserinfo_masked (closes.splitScheme _) masked, rest]

/-- Behind a mask there is nothing left to mask in the candidate. -/
theorem redactUserinfo_remasked {before rest tail : Text} (closes : Closes before)
    (unbroken : Unbroken tail) (plain : '@' ∉ tail) (led : BlankLed rest) :
    redactUserinfo (before ++ mask ++ (tail ++ rest)) =
      before ++ mask ++ (tail ++ redactUserinfo rest) := by
  have stars : Unbroken ['*', '*', '*'] := by decide
  have shown := @redactUserinfo_signed before _ (tail ++ rest) closes stars
  have whole : candidate (tail ++ rest) = tail := by
    rw [candidate_append unbroken, candidate_of_blankLed led, List.append_nil]
  rw [whole, afterLastAt_eq_none.mpr plain, Option.getD_none, beyond_append unbroken,
    beyond_of_blankLed led, redactUserinfo_append unbroken plain led] at shown
  rw [List.append_assoc before]
  exact shown

/-- Masking a second time changes nothing. -/
theorem redactUserinfo_idempotent (text : Text) :
    redactUserinfo (redactUserinfo text) = redactUserinfo text := by
  induction size : text.length using Nat.strong_induction_on generalizing text with
  | _ size ih =>
      subst size
      cases split : splitScheme text with
      | none => rw [redactUserinfo_none split, redactUserinfo_none split]
      | some parts =>
          obtain ⟨before, rest⟩ := parts
          have shorter := splitScheme_shorter split
          obtain ⟨rfl, closes⟩ := splitScheme_eq_some split
          have led := blankLed_beyond rest
          cases masked : afterLastAt (candidate rest) with
          | some tail =>
              obtain ⟨⟨hidden, parts⟩, plain⟩ := afterLastAt_eq_some masked
              have unbroken : Unbroken tail := by
                intro c member
                apply unbroken_candidate rest
                rw [parts]
                exact List.mem_append_right hidden (List.mem_cons_of_mem _ member)
              have plain := afterLastAt_eq_none.mp plain
              have again := ih _ ((masked_shorter masked).trans shorter) _ rfl
              rw [redactUserinfo_append unbroken plain led,
                redactUserinfo_append unbroken plain (blankLed_redactUserinfo led)] at again
              rw [redactUserinfo_masked split masked, redactUserinfo_append unbroken plain led,
                redactUserinfo_remasked closes unbroken plain (blankLed_redactUserinfo led), again]
          | none =>
              have plain := afterLastAt_eq_none.mp masked
              have kept : redactUserinfo rest = candidate rest ++ redactUserinfo (beyond rest) := by
                have parted := redactUserinfo_append (unbroken_candidate rest) plain led
                rwa [candidate_append_beyond] at parted
              have unmasked : afterLastAt (candidate (redactUserinfo rest)) = none := by
                rw [kept, candidate_append (unbroken_candidate rest),
                  candidate_of_blankLed (blankLed_redactUserinfo led), List.append_nil]
                exact masked
              rw [redactUserinfo_plain split masked,
                redactUserinfo_plain (closes.splitScheme _) unmasked,
                ih rest.length shorter rest rfl]

/-- Whatever a text says around them, credentials without a whitespace leave no trace. -/
theorem redactUserinfo_hides {before after credentials others : Text}
    (unbroken : Unbroken credentials) (othersUnbroken : Unbroken others) :
    redactUserinfo (before ++ (schemeEnd ++ (credentials ++ '@' :: after))) =
      redactUserinfo (before ++ (schemeEnd ++ (others ++ '@' :: after))) := by
  induction size : before.length using Nat.strong_induction_on generalizing before with
  | _ size ih =>
      subst size
      cases split : splitScheme before with
      | none =>
          have closes := closes_append split
          rw [← List.append_assoc before, ← List.append_assoc before,
            redactUserinfo_signed closes unbroken, redactUserinfo_signed closes othersUnbroken]
      | some parts =>
          obtain ⟨first, rest⟩ := parts
          have shorter := splitScheme_shorter split
          obtain ⟨rfl, closes⟩ := splitScheme_eq_some split
          by_cases whole : Unbroken rest
          · have marked : Unbroken schemeEnd := by decide
            have hidden := (whole.append marked).append unbroken
            have othersHidden := (whole.append marked).append othersUnbroken
            have shown := @redactUserinfo_signed first _ after closes hidden
            have othersShown := @redactUserinfo_signed first _ after closes othersHidden
            simp only [List.append_assoc] at shown othersShown ⊢
            rw [shown, othersShown]
          · have cut : ∀ secret,
                splitScheme (first ++ rest ++ secret) = some (first, rest ++ secret) :=
              fun secret => List.append_assoc first rest secret ▸ closes.splitScheme _
            cases masked : afterLastAt (candidate rest) with
            | some tail =>
                have less := (masked_shorter masked).trans shorter
                have shown : ∀ secret, redactUserinfo (first ++ rest ++ secret) =
                    first ++ mask ++ redactUserinfo (tail ++ beyond rest ++ secret) := by
                  intro secret
                  obtain ⟨candidates, left⟩ := @candidate_of_broken rest secret whole
                  rw [redactUserinfo_masked (cut secret) (candidates ▸ masked), left,
                    List.append_assoc tail]
                rw [shown, shown, ih _ less rfl]
            | none =>
                have shown : ∀ secret, redactUserinfo (first ++ rest ++ secret) =
                    first ++ redactUserinfo (rest ++ secret) := by
                  intro secret
                  obtain ⟨candidates, -⟩ := @candidate_of_broken rest secret whole
                  exact redactUserinfo_plain (cut secret) (candidates ▸ masked)
                rw [shown, shown, ih _ shorter rfl]

example : redactUserinfo "redis://u:p@h1 and mongodb://a:b@h2".toList =
    "redis://***@h1 and mongodb://***@h2".toList := by
  decide +kernel

/-- Of a whole URI the credentials may hold anything. -/
theorem redactUri_hides {before after credentials others : Text} :
    redactUri (before ++ (schemeEnd ++ (credentials ++ '@' :: after))) =
      redactUri (before ++ (schemeEnd ++ (others ++ '@' :: after))) := by
  have shown : ∀ {first hidden}, Closes first →
      redactUri (first ++ (hidden ++ '@' :: after)) =
        first ++ mask ++ (afterLastAt after).getD after := by
    intro first hidden closes
    simp only [redactUri, closes.splitScheme, afterLastAt_append]
  cases split : splitScheme before with
  | none =>
      have closes := closes_append split
      rw [← List.append_assoc before, ← List.append_assoc before, shown closes, shown closes]
  | some parts =>
      obtain ⟨first, rest⟩ := parts
      obtain ⟨rfl, closes⟩ := splitScheme_eq_some split
      have hidden := @shown first (rest ++ (schemeEnd ++ credentials)) closes
      have othersHidden := @shown first (rest ++ (schemeEnd ++ others)) closes
      simp only [List.append_assoc] at hidden othersHidden ⊢
      rw [hidden, othersHidden]

end Masking

/-! ### The two configurations that hold credentials -/

structure RedisConfig where
  host : Text
  port : Nat
  username : Option Text
  password : Option Text
  database : Nat
  timeout : Nat
  deriving DecidableEq

namespace RedisConfig

/-- The userinfo of the URL. -/
def userinfo (config : RedisConfig) : Option Text :=
  if config.username.isSome ∨ config.password.isSome then
    some (config.username.getD [] ++ (config.password.map fun password => ':' :: password).getD [])
  else none

/-- What follows the userinfo. -/
def location (config : RedisConfig) : Text :=
  config.host ++ ':' :: config.port.repr.toList ++
    if 0 < config.database then '/' :: config.database.repr.toList else []

def url (config : RedisConfig) : Text :=
  "redis".toList ++ (schemeEnd ++ ((config.userinfo.map (· ++ ['@'])).getD [] ++ config.location))

/-- `Display` and `Debug`, made of the fields without the credentials. -/
def display (config : RedisConfig) : Text :=
  "redis".toList ++ schemeEnd ++ (if config.userinfo.isSome then mask else []) ++ config.location ++
    s!" (timeout: {config.timeout}s)".toList

/-- The configuration with other credentials. -/
def withCredentials (config : RedisConfig) (username password : Option Text) : RedisConfig :=
  { config with username, password }

end RedisConfig

structure MongoDBConfig where
  uri : Text
  database : Text
  stepsCollection : Text
  eventsCollection : Text
  timeout : Nat

def MongoDBConfig.display (config : MongoDBConfig) : Text :=
  redactUri config.uri ++ '/' :: config.database ++ " steps=".toList ++ config.stepsCollection ++
    ", events=".toList ++ config.eventsCollection ++ s!" (timeout: {config.timeout}s)".toList

section Configurations

variable {config : RedisConfig} {username password otherUsername otherPassword : Option Text}
  {secret other : Text}

theorem url_withCredentials
    (held : (config.withCredentials username password).userinfo = some secret) :
    (config.withCredentials username password).url =
      "redis".toList ++ (schemeEnd ++ (secret ++ '@' :: config.location)) := by
  unfold RedisConfig.url
  rw [held]
  simp only [Option.map_some, Option.getD_some, List.append_assoc, List.singleton_append]
  rfl

/-- Neither what is shown of the configurations nor a masked text that quotes a URL depends on the
credentials: of Redis, without a whitespace in a quoted URL; of MongoDB, whatever they hold. -/
theorem credentials_unseen {before after front rest : Text} {mongo : MongoDBConfig}
    (held : (config.withCredentials username password).userinfo = some secret)
    (otherHeld : (config.withCredentials otherUsername otherPassword).userinfo = some other) :
    (config.withCredentials username password).display =
        (config.withCredentials otherUsername otherPassword).display ∧
      (Unbroken secret → Unbroken other →
        redactUserinfo (before ++ ((config.withCredentials username password).url ++ after)) =
          redactUserinfo (before ++
            ((config.withCredentials otherUsername otherPassword).url ++ after))) ∧
      ∀ any anyOther : Text,
        MongoDBConfig.display
            { mongo with uri := front ++ (schemeEnd ++ (any ++ '@' :: rest)) } =
          MongoDBConfig.display
            { mongo with uri := front ++ (schemeEnd ++ (anyOther ++ '@' :: rest)) } := by
  refine ⟨?_, ?_, ?_⟩
  · unfold RedisConfig.display
    rw [held, otherHeld]
    rfl
  · intro unbroken otherUnbroken
    rw [url_withCredentials held, url_withCredentials otherHeld]
    have hidden := @redactUserinfo_hides (before ++ "redis".toList) (config.location ++ after)
      secret other unbroken otherUnbroken
    simp only [List.append_assoc, List.cons_append] at hidden ⊢
    exact hidden
  · intro any anyOther
    unfold MongoDBConfig.display
    dsimp only
    rw [@redactUri_hides front rest any anyOther]

def localRedis : RedisConfig := ⟨"localhost".toList, 6379, none, none, 0, 30⟩

theorem credentials_unseen_slash :
    (localRedis.withCredentials (some "user".toList) (some "p s@x".toList)).display =
        (localRedis.withCredentials none (some "other".toList)).display ∧
      redactUserinfo ("failed: ".toList ++
          ((localRedis.withCredentials (some "user".toList) (some "p/s@x".toList)).url ++
            " timeout".toList)) =
        redactUserinfo ("failed: ".toList ++
          ((localRedis.withCredentials none (some "other".toList)).url ++
            " timeout".toList)) := by
  constructor
  · exact (@credentials_unseen localRedis (some "user".toList) (some "p s@x".toList) none
      (some "other".toList) "user:p s@x".toList ":other".toList [] [] [] [] ⟨[], [], [], [], 0⟩
      (by decide) (by decide)).1
  · exact (@credentials_unseen localRedis (some "user".toList) (some "p/s@x".toList) none
      (some "other".toList) "user:p/s@x".toList ":other".toList "failed: ".toList
      " timeout".toList [] [] ⟨[], [], [], [], 0⟩ (by decide) (by decide)).2.1 (by decide)
      (by decide)

end Configurations

end OptionChainSimulator.Infrastructure
