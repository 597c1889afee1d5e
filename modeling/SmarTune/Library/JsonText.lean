import SmarTune.Library.Substitution

/-!
# JSON texts

Documents of strings, lists and objects, written in a layout and read back.
Reading takes two passes.  The first one goes over the text character by
character and makes tokens of it; the second one puts the tokens together on a
stack.  What a string literal reads as is known from the state that its
characters lead to, so a text whose literals were tampered with can be followed
as well.
-/

mutual

/-- A document. -/
inductive JsonDoc
  | null
  | str (text : List Char)
  | arr (items : JsonDocs)
  | obj (pairs : JsonPairs)
  deriving DecidableEq

/-- The items of a list. -/
inductive JsonDocs
  | nil
  | cons (item : JsonDoc) (items : JsonDocs)
  deriving DecidableEq

/-- The keys and values of an object. -/
inductive JsonPairs
  | nil
  | cons (key : List Char) (value : JsonDoc) (pairs : JsonPairs)
  deriving DecidableEq

end

namespace JsonText

/-! ## Tokens -/

/-- The tokens of a text. -/
inductive Token
  | openBracket
  | closeBracket
  | openBrace
  | closeBrace
  | comma
  | colon
  | null
  | str (text : List Char)
  deriving DecidableEq

def punctuation (character : Char) : Option Token :=
  if character = '[' then some .openBracket
  else if character = ']' then some .closeBracket
  else if character = '{' then some .openBrace
  else if character = '}' then some .closeBrace
  else if character = ',' then some .comma
  else if character = ':' then some .colon
  else none

/-- What may stand between tokens. -/
def isBlank (character : Char) : Bool :=
  character = ' ' || character = '\n' || character = '\t' || character = '\r'

/-- Where a reader is in a text.  In a literal it holds what it has read of
it, and in an escape the code so far and how many digits are to come. -/
inductive Reader
  | outside
  | word (left : List Char)
  | inside (read : List Char)
  | escaped (read : List Char)
  | hex (read : List Char) (high : Option ℕ) (code left : ℕ)
  /-- A high surrogate is to be followed by the escape of a low one. -/
  | paired (read : List Char) (high : ℕ)
  | pairedEscape (read : List Char) (high : ℕ)
  deriving DecidableEq

/-- The value of a hexadecimal digit. -/
def hexValue (character : Char) : Option ℕ :=
  if '0' ≤ character ∧ character ≤ '9' then some (character.toNat - 48)
  else if 'a' ≤ character ∧ character ≤ 'f' then some (character.toNat - 87)
  else if 'A' ≤ character ∧ character ≤ 'F' then some (character.toNat - 55)
  else none

/-- What a character after a backslash stands for. -/
def unescape (character : Char) : Option Char :=
  if character = '"' then some '"'
  else if character = '\\' then some '\\'
  else if character = '/' then some '/'
  else if character = 'b' then some '\x08'
  else if character = 'f' then some '\x0c'
  else if character = 'n' then some '\n'
  else if character = 'r' then some '\r'
  else if character = 't' then some '\t'
  else none

/-- The four digits of an escape have been read. -/
def finishHex (read : List Char) (high : Option ℕ) (code : ℕ) :
    Option Reader :=
  match high with
  | some high =>
    if 0xDC00 ≤ code ∧ code < 0xE000 then
      some (.inside (read ++
        [Char.ofNat (0x10000 + (high - 0xD800) * 0x400 + (code - 0xDC00))]))
    else none
  | none =>
    if 0xD800 ≤ code ∧ code < 0xDC00 then some (.paired read code)
    else if 0xDC00 ≤ code ∧ code < 0xE000 then none
    else some (.inside (read ++ [Char.ofNat code]))

/-- One character, with the tokens that it ends; a line break or another
control character in a literal is refused. -/
def advance : Reader → Char → Option (Reader × List Token)
  | .outside, character =>
    if character = '"' then some (.inside [], [])
    else if character = 'n' then some (.word ['u', 'l', 'l'], [])
    else if isBlank character then some (.outside, [])
    else (punctuation character).map fun token => (.outside, [token])
  | .word [], _ => none
  | .word (next :: left), character =>
    if character ≠ next then none
    else if left = [] then some (.outside, [.null])
    else some (.word left, [])
  | .inside read, character =>
    if character = '"' then some (.outside, [.str read])
    else if character = '\\' then some (.escaped read, [])
    else if character.toNat < 0x20 then none
    else some (.inside (read ++ [character]), [])
  | .escaped read, character =>
    if character = 'u' then some (.hex read none 0 4, [])
    else (unescape character).map fun plain => (.inside (read ++ [plain]), [])
  | .hex read high code left, character =>
    (hexValue character).bind fun value =>
      if left ≤ 1 then
        (finishHex read high (16 * code + value)).map fun next => (next, [])
      else some (.hex read high (16 * code + value) (left - 1), [])
  | .paired read high, character =>
    if character = '\\' then some (.pairedEscape read high, []) else none
  | .pairedEscape read high, character =>
    if character = 'u' then some (.hex read (some high) 0 4, []) else none

def withTokens (tokens : List Token)
    (reading : Option (Reader × List Token)) : Option (Reader × List Token) :=
  reading.map fun scanned => (scanned.1, tokens ++ scanned.2)

@[simp] theorem withTokens_none (tokens : List Token) :
    withTokens tokens none = none := rfl

@[simp] theorem withTokens_some (tokens : List Token)
    (scanned : Reader × List Token) :
    withTokens tokens (some scanned) = some (scanned.1, tokens ++ scanned.2) :=
  rfl

@[simp] theorem withTokens_nil (reading : Option (Reader × List Token)) :
    withTokens [] reading = reading := by
  cases reading <;> rfl

@[simp] theorem withTokens_withTokens (first second : List Token)
    (reading : Option (Reader × List Token)) :
    withTokens first (withTokens second reading) =
      withTokens (first ++ second) reading := by
  cases reading <;> simp

/-- A text, character by character. -/
def scan (reader : Reader) : List Char → Option (Reader × List Token)
  | [] => some (reader, [])
  | character :: rest =>
    (advance reader character).bind fun stepped =>
      withTokens stepped.2 (scan stepped.1 rest)

@[simp] theorem scan_nil (reader : Reader) :
    scan reader [] = some (reader, []) := rfl

/-- A character with a known effect. -/
theorem scan_cons {reader next : Reader} {character : Char}
    {tokens : List Token}
    (step : advance reader character = some (next, tokens)) (rest : List Char) :
    scan reader (character :: rest) = withTokens tokens (scan next rest) := by
  rw [scan, step]
  rfl

/-- Blanks between tokens are passed over. -/
theorem scan_blank {blank : List Char}
    (all : ∀ character ∈ blank, isBlank character = true) (rest : List Char) :
    scan .outside (blank ++ rest) = scan .outside rest := by
  induction blank with
  | nil => rfl
  | cons character blank ih =>
    have step : advance .outside character = some (.outside, []) := by
      have known := all character (by simp)
      simp only [isBlank, Bool.or_eq_true, decide_eq_true_eq] at known
      rcases known with ((rfl | rfl) | rfl) | rfl <;> rfl
    rw [List.cons_append, scan_cons step, withTokens_nil]
    exact ih fun other member => all other (by simp [member])

/-- The tokens of a text that ends between two of them. -/
def lex (text : List Char) : Option (List Token) :=
  (scan .outside text).bind fun (last, tokens) =>
    if last = .outside then some tokens else none

/-! ## Putting tokens together -/

/-- A list or an object that is not closed yet. -/
inductive Frame
  | arr (before : List JsonDoc)
  | obj (before : List (List Char × JsonDoc)) (key : List Char)

/-- What may come next. -/
inductive Builder
  | value (stack : List Frame)
  /-- After an opening bracket. -/
  | item (stack : List Frame)
  /-- After an opening brace. -/
  | firstKey (stack : List Frame)
  | key (stack : List Frame) (before : List (List Char × JsonDoc))
  | colon (stack : List Frame) (before : List (List Char × JsonDoc))
      (key : List Char)
  | closed (stack : List Frame) (value : JsonDoc)

end JsonText

/-- The items of a list of documents. -/
def JsonDocs.ofList : List JsonDoc → JsonDocs
  | [] => .nil
  | item :: items => .cons item (ofList items)

/-- The items, in order. -/
def JsonDocs.toList : JsonDocs → List JsonDoc
  | .nil => []
  | .cons item items => item :: items.toList

def JsonPairs.ofList : List (List Char × JsonDoc) → JsonPairs
  | [] => .nil
  | (key, value) :: pairs => .cons key value (ofList pairs)

/-- The pairs, in order. -/
def JsonPairs.toList : JsonPairs → List (List Char × JsonDoc)
  | .nil => []
  | .cons key value pairs => (key, value) :: pairs.toList

@[simp] theorem JsonDocs.ofList_toList :
    ∀ items : JsonDocs, ofList items.toList = items
  | .nil => rfl
  | .cons item items => congrArg (JsonDocs.cons item) (ofList_toList items)

@[simp] theorem JsonDocs.toList_ofList :
    ∀ items : List JsonDoc, (ofList items).toList = items
  | [] => rfl
  | item :: items => congrArg (item :: ·) (toList_ofList items)

/-- Different lists of items are different. -/
theorem JsonDocs.ofList_injective : Function.Injective ofList :=
  Function.LeftInverse.injective toList_ofList

@[simp] theorem JsonPairs.toList_ofList :
    ∀ pairs : List (List Char × JsonDoc), (ofList pairs).toList = pairs
  | [] => rfl
  | pair :: pairs => congrArg (pair :: ·) (toList_ofList pairs)

theorem JsonPairs.ofList_injective : Function.Injective ofList :=
  Function.LeftInverse.injective toList_ofList

@[simp] theorem JsonPairs.ofList_toList :
    ∀ pairs : JsonPairs, ofList pairs.toList = pairs
  | .nil => rfl
  | .cons key value pairs =>
    congrArg (JsonPairs.cons key value) (ofList_toList pairs)

namespace JsonText

/-- A token where a value may come. -/
def beginValue (stack : List Frame) : Token → Option Builder
  | .null => some (.closed stack .null)
  | .str text => some (.closed stack (.str text))
  | .openBracket => some (.item stack)
  | .openBrace => some (.firstKey stack)
  | _ => none

def build : Builder → Token → Option Builder
  | .value stack, token => beginValue stack token
  | .item stack, .closeBracket => some (.closed stack (.arr .nil))
  | .item stack, token => beginValue (.arr [] :: stack) token
  | .firstKey stack, .closeBrace => some (.closed stack (.obj .nil))
  | .firstKey stack, .str key => some (.colon stack [] key)
  | .key stack before, .str key => some (.colon stack before key)
  | .colon stack before key, .colon => some (.value (.obj before key :: stack))
  | .closed (.arr before :: stack) value, .comma =>
    some (.value (.arr (before ++ [value]) :: stack))
  | .closed (.arr before :: stack) value, .closeBracket =>
    some (.closed stack (.arr (.ofList (before ++ [value]))))
  | .closed (.obj before key :: stack) value, .comma =>
    some (.key stack (before ++ [(key, value)]))
  | .closed (.obj before key :: stack) value, .closeBrace =>
    some (.closed stack (.obj (.ofList (before ++ [(key, value)]))))
  | _, _ => none

/-- The document that tokens make up. -/
def parse (tokens : List Token) : Option JsonDoc :=
  match tokens.foldlM build (.value []) with
  | some (.closed [] value) => some value
  | _ => none

/-- `json.loads`, of a text of strings, lists, objects and nulls. -/
def decode (text : List Char) : Option JsonDoc := (lex text).bind parse

end JsonText

mutual

/-- The tokens of a document. -/
def JsonDoc.tokens : JsonDoc → List JsonText.Token
  | .null => [.null]
  | .str text => [.str text]
  | .arr .nil => [.openBracket, .closeBracket]
  | .arr (.cons item items) =>
    .openBracket :: (item.tokens ++ (items.tokens ++ [.closeBracket]))
  | .obj .nil => [.openBrace, .closeBrace]
  | .obj (.cons key value pairs) =>
    .openBrace :: .str key :: .colon ::
      (value.tokens ++ (pairs.tokens ++ [.closeBrace]))

/-- The tokens of further items. -/
def JsonDocs.tokens : JsonDocs → List JsonText.Token
  | .nil => []
  | .cons item items => .comma :: (item.tokens ++ items.tokens)

def JsonPairs.tokens : JsonPairs → List JsonText.Token
  | .nil => []
  | .cons key value pairs =>
    .comma :: .str key :: .colon :: (value.tokens ++ pairs.tokens)

end

namespace JsonText

/-! ## Reading tokens back -/

theorem build_item (stack : List Frame) (document : JsonDoc)
    (rest : List Token) :
    (document.tokens ++ rest).foldlM build (.item stack) =
      (document.tokens ++ rest).foldlM build (.value (.arr [] :: stack)) := by
  cases document with
  | null => rfl
  | str text => rfl
  | arr items => cases items <;> rfl
  | obj pairs => cases pairs <;> rfl

mutual

theorem build_tokens (stack : List Frame) :
    ∀ (document : JsonDoc) (rest : List Token),
      (document.tokens ++ rest).foldlM build (.value stack) =
        rest.foldlM build (.closed stack document)
  | .null, _ => rfl
  | .str _, _ => rfl
  | .arr .nil, _ => rfl
  | .arr (.cons item items), rest => by
      change ((item.tokens ++ (items.tokens ++ [Token.closeBracket])) ++
        rest).foldlM build (.item stack) = _
      rw [List.append_assoc, build_item, build_tokens, List.append_assoc,
        build_items, List.nil_append, JsonDocs.ofList, JsonDocs.ofList_toList]
  | .obj .nil, _ => rfl
  | .obj (.cons key value pairs), rest => by
      change ((value.tokens ++ (pairs.tokens ++ [Token.closeBrace])) ++
        rest).foldlM build (.value (.obj [] key :: stack)) = _
      rw [List.append_assoc, build_tokens, List.append_assoc, build_pairs,
        List.nil_append, JsonPairs.ofList, JsonPairs.ofList_toList]

theorem build_items (stack : List Frame) (before : List JsonDoc)
    (last : JsonDoc) :
    ∀ (items : JsonDocs) (rest : List Token),
      (items.tokens ++ ([Token.closeBracket] ++ rest)).foldlM build
          (.closed (.arr before :: stack) last) =
        rest.foldlM build
          (.closed stack (.arr (.ofList (before ++ last :: items.toList))))
  | .nil, _ => rfl
  | .cons item items, rest => by
      change ((item.tokens ++ items.tokens) ++
        ([Token.closeBracket] ++ rest)).foldlM build
          (.value (.arr (before ++ [last]) :: stack)) = _
      rw [List.append_assoc, build_tokens, build_items, List.append_assoc]
      rfl

theorem build_pairs (stack : List Frame) (before : List (List Char × JsonDoc))
    (key : List Char) (last : JsonDoc) :
    ∀ (pairs : JsonPairs) (rest : List Token),
      (pairs.tokens ++ ([Token.closeBrace] ++ rest)).foldlM build
          (.closed (.obj before key :: stack) last) =
        rest.foldlM build (.closed stack
          (.obj (.ofList (before ++ (key, last) :: pairs.toList))))
  | .nil, _ => rfl
  | .cons next value pairs, rest => by
      change ((value.tokens ++ pairs.tokens) ++
        ([Token.closeBrace] ++ rest)).foldlM build
          (.value (.obj (before ++ [(key, last)]) next :: stack)) = _
      rw [List.append_assoc, build_tokens, build_pairs, List.append_assoc]
      rfl

end

theorem parse_tokens (document : JsonDoc) :
    parse document.tokens = some document := by
  have built := build_tokens [] document []
  rw [List.append_nil] at built
  rw [parse, built]
  rfl

/-! ## Writing -/

/-- The digits `0` to `f`. -/
def hexDigit (value : ℕ) : Char :=
  if value < 10 then Char.ofNat (48 + value) else Char.ofNat (87 + value)

/-- `\uXXXX`. -/
def hexEscape (code : ℕ) : List Char :=
  ['\\', 'u', hexDigit (code / 0x1000 % 16), hexDigit (code / 0x100 % 16),
    hexDigit (code / 0x10 % 16), hexDigit (code % 16)]

/-- A character of a literal, in ASCII. -/
def escape (character : Char) : List Char :=
  if character = '"' then ['\\', '"']
  else if character = '\\' then ['\\', '\\']
  else if character = '\n' then ['\\', 'n']
  else if character = '\r' then ['\\', 'r']
  else if character = '\t' then ['\\', 't']
  else if character = '\x08' then ['\\', 'b']
  else if character = '\x0c' then ['\\', 'f']
  else if 0x20 ≤ character.toNat ∧ character.toNat ≤ 0x7E then [character]
  else if character.toNat < 0x10000 then hexEscape character.toNat
  else
    hexEscape (0xD800 + (character.toNat - 0x10000) / 0x400) ++
      hexEscape (0xDC00 + (character.toNat - 0x10000) % 0x400)

/-- How a text is laid out: what follows an opening bracket or a comma at a
level, or precedes a closing bracket, and what follows a colon. -/
structure Layout where
  break_ : ℕ → List Char
  space : List Char
  blank_break : ∀ level, ∀ character ∈ break_ level, isBlank character = true
  blank_space : ∀ character ∈ space, isBlank character = true

/-- `separators=(",", ":")`. -/
def compact : Layout where
  break_ := fun _ => []
  space := []
  blank_break := nofun
  blank_space := nofun

/-- `indent`. -/
def indented (width : ℕ) : Layout where
  break_ := fun level => '\n' :: List.replicate (width * level) ' '
  space := [' ']
  blank_break := by
    intro level character member
    rcases List.mem_cons.mp member with rfl | member
    · rfl
    · rw [List.eq_of_mem_replicate member]
      rfl
  blank_space := by
    intro character member
    rw [List.mem_singleton.mp member]
    rfl

end JsonText

mutual

/-- A document in a layout, with what to write for the literals. -/
def JsonDoc.print (quote : List Char → List Char) (layout : JsonText.Layout)
    (level : ℕ) : JsonDoc → List Char
  | .null => ['n', 'u', 'l', 'l']
  | .str text => '"' :: (quote text ++ ['"'])
  | .arr .nil => ['[', ']']
  | .arr (.cons item items) =>
    '[' :: (layout.break_ (level + 1) ++ (item.print quote layout (level + 1) ++
        (items.print quote layout (level + 1) ++
          (layout.break_ level ++ [']']))))
  | .obj .nil => ['{', '}']
  | .obj (.cons key value pairs) =>
    '{' :: (layout.break_ (level + 1) ++
      ('"' :: (quote key ++ ('"' :: ':' :: (layout.space ++
        (value.print quote layout (level + 1) ++
          (pairs.print quote layout (level + 1) ++
            (layout.break_ level ++ ['}']))))))))

/-- Further items. -/
def JsonDocs.print (quote : List Char → List Char) (layout : JsonText.Layout)
    (level : ℕ) : JsonDocs → List Char
  | .nil => []
  | .cons item items =>
    ',' :: (layout.break_ level ++
      (item.print quote layout level ++ items.print quote layout level))

/-- Further pairs. -/
def JsonPairs.print (quote : List Char → List Char) (layout : JsonText.Layout)
    (level : ℕ) : JsonPairs → List Char
  | .nil => []
  | .cons key value pairs =>
    ',' :: (layout.break_ level ++
      ('"' :: (quote key ++ ('"' :: ':' :: (layout.space ++
        (value.print quote layout level ++ pairs.print quote layout level))))))

end

mutual

/-- The document with other strings, if there is one for each. -/
def JsonDoc.mapM
    (change : List Char → Option (List Char)) : JsonDoc → Option JsonDoc
  | .null => some .null
  | .str text => (change text).map .str
  | .arr items => (items.mapM change).map .arr
  | .obj pairs => (pairs.mapM change).map .obj

/-- The items with other strings. -/
def JsonDocs.mapM
    (change : List Char → Option (List Char)) : JsonDocs → Option JsonDocs
  | .nil => some .nil
  | .cons item items =>
    (item.mapM change).bind fun item =>
      (items.mapM change).map (.cons item)

/-- The pairs with other strings. -/
def JsonPairs.mapM
    (change : List Char → Option (List Char)) : JsonPairs → Option JsonPairs
  | .nil => some .nil
  | .cons key value pairs =>
    (change key).bind fun key =>
      (value.mapM change).bind fun value =>
        (pairs.mapM change).map (.cons key value)

end

namespace JsonText

/-- What the literals that are written read as, if they can be read. -/
def Reads (quote : List Char → List Char)
    (change : List Char → Option (List Char)) : Prop :=
  ∀ text rest, scan (.inside []) (quote text ++ '"' :: rest) =
    (change text).bind fun read => withTokens [.str read] (scan .outside rest)

section Print

variable {quote : List Char → List Char}
  {change : List Char → Option (List Char)} (layout : Layout)

theorem scan_key (reads : Reads quote change) (key rest : List Char) :
    scan .outside ('"' :: (quote key ++
        ('"' :: ':' :: (layout.space ++ rest)))) =
      (change key).bind fun key =>
        withTokens [.str key, .colon] (scan .outside rest) := by
  have colon : scan .outside (':' :: (layout.space ++ rest)) =
      withTokens [.colon] (scan .outside rest) := by
    rw [scan_cons (by rfl), scan_blank layout.blank_space]
  rw [scan_cons (by rfl), withTokens_nil, reads, colon]
  simp

mutual

theorem scan_print (reads : Reads quote change) (level : ℕ) :
    ∀ (document : JsonDoc) (rest : List Char),
      scan .outside (document.print quote layout level ++ rest) =
        (document.mapM change).bind fun document =>
          withTokens document.tokens (scan .outside rest)
  | .null, rest => by
      simp only [JsonDoc.print, List.cons_append, List.nil_append]
      rw [scan_cons (by rfl), scan_cons (by rfl), scan_cons (by rfl),
        scan_cons (by rfl)]
      simp [JsonDoc.mapM, JsonDoc.tokens]
  | .str text, rest => by
      simp only [JsonDoc.print, List.cons_append, List.append_assoc,
        List.nil_append]
      rw [scan_cons (by rfl), withTokens_nil, reads]
      cases read : change text <;> simp [JsonDoc.mapM, JsonDoc.tokens, read]
  | .arr .nil, rest => by
      simp only [JsonDoc.print, List.cons_append, List.nil_append]
      rw [scan_cons (by rfl), scan_cons (by rfl)]
      simp [JsonDoc.mapM, JsonDocs.mapM, JsonDoc.tokens]
  | .arr (.cons item items), rest => by
      simp only [JsonDoc.print, List.cons_append, List.append_assoc,
        List.nil_append]
      rw [scan_cons (by rfl), scan_blank (layout.blank_break _), scan_print reads,
        scan_print_items reads, scan_blank (layout.blank_break _),
        scan_cons (by rfl)]
      cases first : item.mapM change <;> cases others : items.mapM change <;>
        simp [JsonDoc.mapM, JsonDocs.mapM, JsonDoc.tokens, first, others]
  | .obj .nil, rest => by
      simp only [JsonDoc.print, List.cons_append, List.nil_append]
      rw [scan_cons (by rfl), scan_cons (by rfl)]
      simp [JsonDoc.mapM, JsonPairs.mapM, JsonDoc.tokens]
  | .obj (.cons key value pairs), rest => by
      simp only [JsonDoc.print, List.cons_append, List.append_assoc,
        List.nil_append]
      rw [scan_cons (by rfl), scan_blank (layout.blank_break _),
        scan_key layout reads, scan_print reads, scan_print_pairs reads,
        scan_blank (layout.blank_break _), scan_cons (by rfl)]
      cases first : change key <;> cases second : value.mapM change <;>
        cases others : pairs.mapM change <;>
        simp [JsonDoc.mapM, JsonPairs.mapM, JsonDoc.tokens, first, second,
          others]

theorem scan_print_items (reads : Reads quote change) (level : ℕ) :
    ∀ (items : JsonDocs) (rest : List Char),
      scan .outside (items.print quote layout level ++ rest) =
        (items.mapM change).bind fun items =>
          withTokens items.tokens (scan .outside rest)
  | .nil, rest => by simp [JsonDocs.print, JsonDocs.mapM, JsonDocs.tokens]
  | .cons item items, rest => by
      simp only [JsonDocs.print, List.cons_append, List.append_assoc]
      rw [scan_cons (by rfl), scan_blank (layout.blank_break _), scan_print reads,
        scan_print_items reads]
      cases first : item.mapM change <;> cases others : items.mapM change <;>
        simp [JsonDocs.mapM, JsonDocs.tokens, first, others]

theorem scan_print_pairs (reads : Reads quote change) (level : ℕ) :
    ∀ (pairs : JsonPairs) (rest : List Char),
      scan .outside (pairs.print quote layout level ++ rest) =
        (pairs.mapM change).bind fun pairs =>
          withTokens pairs.tokens (scan .outside rest)
  | .nil, rest => by simp [JsonPairs.print, JsonPairs.mapM, JsonPairs.tokens]
  | .cons key value pairs, rest => by
      simp only [JsonPairs.print, List.cons_append, List.append_assoc]
      rw [scan_cons (by rfl), scan_blank (layout.blank_break _),
        scan_key layout reads, scan_print reads, scan_print_pairs reads]
      cases first : change key <;> cases second : value.mapM change <;>
        cases others : pairs.mapM change <;>
        simp [JsonPairs.mapM, JsonPairs.tokens, first, second, others]

end

theorem decode_print (reads : Reads quote change) (document : JsonDoc) :
    decode (document.print quote layout 0) = document.mapM change := by
  have scanned := scan_print layout reads 0 document []
  rw [List.append_nil] at scanned
  rw [decode, lex, scanned]
  cases document.mapM change with
  | none => rfl
  | some document => simp [parse_tokens]

end Print

/-! ## Literals that read as what they stand for -/

theorem hexValue_hexDigit : ∀ value < 16, hexValue (hexDigit value) = some value := by
  decide

/-- A digit of an escape, but the last. -/
theorem advance_hex (read : List Char) (high : Option ℕ) (code left value : ℕ) :
    advance (.hex read high code (left + 2)) (hexDigit (value % 16)) =
      some (.hex read high (16 * code + value % 16) (left + 1), []) := by
  have digit := hexValue_hexDigit _ (Nat.mod_lt value (by decide))
  simp [advance, digit]

theorem scan_hex (read : List Char) (high : Option ℕ) {code : ℕ}
    (small : code < 0x10000) (rest : List Char) :
    scan (.hex read high 0 4) (hexDigit (code / 0x1000 % 16) ::
        hexDigit (code / 0x100 % 16) :: hexDigit (code / 0x10 % 16) ::
          hexDigit (code % 16) :: rest) =
      (finishHex read high code).bind fun next => scan next rest := by
  have whole : 16 * (16 * (16 * (16 * 0 + code / 0x1000 % 16) +
      code / 0x100 % 16) + code / 0x10 % 16) + code % 16 = code := by
    omega
  have digit := hexValue_hexDigit _ (Nat.mod_lt code (by decide))
  rw [scan_cons (advance_hex _ _ _ _ _), scan_cons (advance_hex _ _ _ _ _),
    scan_cons (advance_hex _ _ _ _ _), scan, advance, digit, Option.bind_some,
    if_pos (by decide), whole]
  cases finishHex read high code <;> simp

theorem toNat_not_surrogate (character : Char) :
    character.toNat < 0xD800 ∨
      0xE000 ≤ character.toNat ∧ character.toNat < 0x110000 := by
  rcases character.valid with low | ⟨high, bound⟩
  · exact .inl low
  · exact .inr ⟨high, bound⟩

theorem scan_escape (read : List Char) (character : Char) (rest : List Char) :
    scan (.inside read) (escape character ++ rest) =
      scan (.inside (read ++ [character])) rest := by
  have simple : ∀ written, unescape written = some character → written ≠ 'u' →
      scan (.inside read) (['\\', written] ++ rest) =
        scan (.inside (read ++ [character])) rest := by
    intro written plain different
    have step : advance (.escaped read) written =
        some (.inside (read ++ [character]), []) := by
      simp [advance, different, plain]
    rw [List.cons_append, scan_cons (by rfl), List.singleton_append,
      scan_cons step]
    simp
  have start : ∀ code tail, scan (.inside read) (hexEscape code ++ tail) =
      scan (.hex read none 0 4) (hexDigit (code / 0x1000 % 16) ::
        hexDigit (code / 0x100 % 16) :: hexDigit (code / 0x10 % 16) ::
          hexDigit (code % 16) :: tail) := by
    intro code tail
    rw [hexEscape, List.cons_append, List.cons_append, scan_cons (by rfl),
      scan_cons (by rfl)]
    simp
  unfold escape
  split
  · rename_i same
    exact simple '"' (by rw [same]; rfl) (by decide)
  split
  · rename_i same
    exact simple '\\' (by rw [same]; rfl) (by decide)
  split
  · rename_i same
    exact simple 'n' (by rw [same]; rfl) (by decide)
  split
  · rename_i same
    exact simple 'r' (by rw [same]; rfl) (by decide)
  split
  · rename_i same
    exact simple 't' (by rw [same]; rfl) (by decide)
  split
  · rename_i same
    exact simple 'b' (by rw [same]; rfl) (by decide)
  split
  · rename_i same
    exact simple 'f' (by rw [same]; rfl) (by decide)
  rename_i quote backslash _ _ _ _ _
  have surrogate := toNat_not_surrogate character
  split
  · rename_i printable
    have step : advance (.inside read) character =
        some (.inside (read ++ [character]), []) := by
      simp [advance, quote, backslash, Nat.not_lt.mpr printable.1]
    rw [List.singleton_append, scan_cons step, withTokens_nil]
  split
  · rename_i small
    have finish : finishHex read none character.toNat =
        some (.inside (read ++ [character])) := by
      simp only [finishHex, Char.ofNat_toNat]
      rw [if_neg (by omega), if_neg (by omega)]
    rw [start, scan_hex read none small, finish, Option.bind_some]
  · rename_i large
    have first : finishHex read none
        (0xD800 + (character.toNat - 0x10000) / 0x400) =
          some (.paired read (0xD800 + (character.toNat - 0x10000) / 0x400)) := by
      simp only [finishHex]
      rw [if_pos (by omega)]
    have second : finishHex read
        (some (0xD800 + (character.toNat - 0x10000) / 0x400))
        (0xDC00 + (character.toNat - 0x10000) % 0x400) =
          some (.inside (read ++ [character])) := by
      have whole : 0x10000 + (0xD800 + (character.toNat - 0x10000) / 0x400 -
          0xD800) * 0x400 + (0xDC00 + (character.toNat - 0x10000) % 0x400 -
            0xDC00) = character.toNat := by
        omega
      simp only [finishHex, whole, Char.ofNat_toNat]
      rw [if_pos (by omega)]
    rw [List.append_assoc, start, scan_hex read none (by omega), first,
      Option.bind_some, hexEscape, List.cons_append, List.cons_append,
      scan_cons (by rfl), scan_cons (by rfl)]
    simp only [List.cons_append, List.nil_append, withTokens_nil]
    rw [scan_hex read _ (by omega), second, Option.bind_some]

theorem escape_ne_nil (character : Char) : escape character ≠ [] := by
  unfold escape
  repeat' split
  all_goals simp [hexEscape]

theorem mem_escape {character written : Char}
    (member : written ∈ escape character) :
    (escape character = [character] ∧ written = character ∧
        0x20 ≤ character.toNat) ∨
      written ∈ ['\\', '"', 'n', 'r', 't', 'b', 'f', 'u'] ∨
        ∃ value < 16, written = hexDigit value := by
  have inHex : ∀ code, written ∈ hexEscape code →
      written ∈ ['\\', '"', 'n', 'r', 't', 'b', 'f', 'u'] ∨
        ∃ value < 16, written = hexDigit value := by
    intro code inside
    simp only [hexEscape, List.mem_cons, List.not_mem_nil, or_false] at inside
    have digit : ∀ value, value % 16 < 16 := fun value =>
      Nat.mod_lt value (by decide)
    rcases inside with rfl | rfl | rfl | rfl | rfl | rfl
    · simp
    · simp
    · exact .inr ⟨_, digit _, rfl⟩
    · exact .inr ⟨_, digit _, rfl⟩
    · exact .inr ⟨_, digit _, rfl⟩
    · exact .inr ⟨_, digit _, rfl⟩
  unfold escape at member ⊢
  split at member
  · exact .inr (.inl (by revert member; simp; tauto))
  split at member
  · exact .inr (.inl (by revert member; simp; tauto))
  split at member
  · exact .inr (.inl (by revert member; simp; tauto))
  split at member
  · exact .inr (.inl (by revert member; simp; tauto))
  split at member
  · exact .inr (.inl (by revert member; simp; tauto))
  split at member
  · exact .inr (.inl (by revert member; simp; tauto))
  split at member
  · exact .inr (.inl (by revert member; simp; tauto))
  rename_i quote backslash newline return_ tab back feed
  split at member
  · rename_i printable
    left
    simpa [quote, backslash, newline, return_, tab, back, feed, printable]
      using member
  split at member
  · exact .inr (inHex _ member)
  · rcases List.mem_append.mp member with first | second
    · exact .inr (inHex _ first)
    · exact .inr (inHex _ second)

/-- A character of a pattern that escapes leave alone. -/
def Unescaped (character : Char) : Prop :=
  escape character = [character] ∧
    character ∉ ['\\', '"', 'n', 'r', 't', 'b', 'f', 'u'] ∧
      ∀ value < 16, character ≠ hexDigit value

instance (character : Char) : Decidable (Unescaped character) :=
  inferInstanceAs (Decidable (_ ∧ _ ∧ _))

theorem spares_escape {pattern : List Char}
    (plain : ∀ character ∈ pattern, Unescaped character) :
    Substitution.Spares escape pattern where
  kept := fun character member => (plain character member).1
  written := by
    intro character _
    exact escape_ne_nil character
  apart := by
    intro character lacks written member inside
    obtain ⟨_, letters, digits⟩ := plain written inside
    rcases mem_escape member with ⟨_, rfl, _⟩ | letter | ⟨value, small, digit⟩
    · exact lacks inside
    · exact letters letter
    · exact digits value small digit

/-- A literal is on one line. -/
theorem newline_not_mem_escape (text : List Char) :
    '\n' ∉ text.flatMap escape := by
  intro member
  obtain ⟨character, _, inside⟩ := List.mem_flatMap.mp member
  rcases mem_escape inside with ⟨_, rfl, printable⟩ | letter | ⟨value, small, digit⟩
  · exact absurd printable (by decide)
  · exact absurd letter (by decide)
  · revert digit
    revert value
    decide

theorem flatMap_escape_eq_self {text : List Char}
    (plain : ∀ character ∈ text, escape character = [character]) :
    text.flatMap escape = text := by
  induction text with
  | nil => rfl
  | cons character text ih =>
    rw [List.flatMap_cons, plain character (by simp),
      ih fun other member => plain other (by simp [member])]
    rfl

theorem scan_flatMap_escape (read text rest : List Char) :
    scan (.inside read) (text.flatMap escape ++ rest) =
      scan (.inside (read ++ text)) rest := by
  induction text generalizing read with
  | nil => simp
  | cons character text ih =>
    rw [List.flatMap_cons, List.append_assoc, scan_escape,
      ih, List.append_assoc]
    rfl

/-- A text is read from its literal. -/
theorem reads_escape : Reads (List.flatMap escape) some := by
  intro text rest
  rw [scan_flatMap_escape, scan_cons (by rfl)]
  rfl

section Tampered

open Substitution

variable {pattern : List Char}
  (plain : ∀ character ∈ pattern, Unescaped character) (nonempty : pattern ≠ [])
include plain nonempty

/-- A replacement that is written as it is changes what the literals read as. -/
theorem reads_replace {replacement : List Char}
    (kept : replacement.flatMap escape = replacement) :
    Reads (replace pattern replacement ∘ List.flatMap escape)
      (some ∘ replace pattern replacement) := by
  intro text rest
  rw [Function.comp_apply, (spares_escape plain).replace_flatMap nonempty kept]
  exact reads_escape _ rest

/-- A replacement with a line break leaves no literal to read. -/
theorem reads_replace_of_newline {before : List Char}
    (kept : before.flatMap escape = before) (after : List Char) :
    Reads (replace pattern (before ++ '\n' :: after) ∘ List.flatMap escape)
      (fun text => if pattern <:+: text then none else some text) := by
  intro text rest
  have pieces := (spares_escape plain).cut_flatMap nonempty text
  rw [Function.comp_apply, replace, pieces]
  dsimp only
  split
  · next occurs =>
      cases found : cut pattern text with
      | nil => exact absurd found (cut_ne_nil nonempty text)
      | cons first others =>
        cases others with
        | nil =>
          have whole := intercalate_cut nonempty text
          rw [replace, found, List.intercalate_singleton] at whole
          rw [whole] at found
          exact absurd occurs ((cut_eq_singleton_iff nonempty text).mp found)
        | cons second others =>
          simp only [List.map_cons, List.intercalate_cons_cons,
            List.append_assoc, List.cons_append]
          rw [← List.append_assoc, ← kept, ← List.flatMap_append,
            scan_flatMap_escape]
          rfl
  · next absent =>
      rw [(cut_eq_singleton_iff nonempty text).mpr absent, List.map_singleton,
        List.intercalate_singleton]
      exact reads_escape text rest

end Tampered

end JsonText

mutual

/-- The strings of a document, its keys included. -/
def JsonDoc.strings : JsonDoc → List (List Char)
  | .null => []
  | .str text => [text]
  | .arr items => items.strings
  | .obj pairs => pairs.strings

/-- The strings of the items. -/
def JsonDocs.strings : JsonDocs → List (List Char)
  | .nil => []
  | .cons item items => item.strings ++ items.strings

def JsonPairs.strings : JsonPairs → List (List Char)
  | .nil => []
  | .cons key value pairs => key :: (value.strings ++ pairs.strings)

end

@[simp] theorem JsonDocs.strings_ofList :
    ∀ items : List JsonDoc,
      (ofList items).strings = items.flatMap JsonDoc.strings
  | [] => rfl
  | item :: items => congrArg (item.strings ++ ·) (strings_ofList items)

@[simp] theorem JsonPairs.strings_ofList :
    ∀ pairs : List (List Char × JsonDoc), (ofList pairs).strings =
        pairs.flatMap fun pair => pair.1 :: pair.2.strings
  | [] => rfl
  | (key, value) :: pairs =>
    congrArg (fun strings => key :: (value.strings ++ strings))
      (strings_ofList pairs)

mutual

theorem JsonDoc.mapM_eq_self_iff (change : List Char → Option (List Char)) :
    ∀ document : JsonDoc, document.mapM change = some document ↔
      ∀ text ∈ document.strings, change text = some text
  | .null => by simp [JsonDoc.mapM, JsonDoc.strings]
  | .str text => by simp [JsonDoc.mapM, JsonDoc.strings]
  | .arr items => by
      simp [JsonDoc.mapM, JsonDoc.strings, ← items.mapM_eq_self_iff change]
  | .obj pairs => by
      simp [JsonDoc.mapM, JsonDoc.strings, ← pairs.mapM_eq_self_iff change]

theorem JsonDocs.mapM_eq_self_iff (change : List Char → Option (List Char)) :
    ∀ items : JsonDocs, items.mapM change = some items ↔
      ∀ text ∈ items.strings, change text = some text
  | .nil => by simp [JsonDocs.mapM, JsonDocs.strings]
  | .cons item items => by
      simp only [JsonDocs.mapM, JsonDocs.strings, List.forall_mem_append,
        ← item.mapM_eq_self_iff change, ← items.mapM_eq_self_iff change]
      cases item.mapM change <;> cases items.mapM change <;> simp

theorem JsonPairs.mapM_eq_self_iff (change : List Char → Option (List Char)) :
    ∀ pairs : JsonPairs, pairs.mapM change = some pairs ↔
      ∀ text ∈ pairs.strings, change text = some text
  | .nil => by simp [JsonPairs.mapM, JsonPairs.strings]
  | .cons key value pairs => by
      simp only [JsonPairs.mapM, JsonPairs.strings, List.forall_mem_cons,
        List.forall_mem_append, ← value.mapM_eq_self_iff change,
        ← pairs.mapM_eq_self_iff change]
      cases change key <;> cases value.mapM change <;>
        cases pairs.mapM change <;> simp

end

/-- `json.dumps`. -/
def JsonDoc.dumps (layout : JsonText.Layout) (document : JsonDoc) : List Char :=
  document.print (List.flatMap JsonText.escape) layout 0

namespace JsonText

/-- A written document is read back. -/
theorem decode_dumps (layout : Layout) (document : JsonDoc) :
    decode (document.dumps layout) = some document := by
  rw [JsonDoc.dumps, decode_print layout reads_escape, JsonDoc.mapM_eq_self_iff]
  exact fun _ _ => rfl

/-- Different documents are written differently. -/
theorem dumps_injective (layout : Layout) :
    Function.Injective (JsonDoc.dumps layout) := by
  intro first second same
  have read := decode_dumps layout first
  rw [same, decode_dumps] at read
  exact (Option.some.inj read).symm

/-! ## Substitution in a written document -/

open Substitution

/-- A pattern with no character that stands between strings. -/
def Foreign (pattern : List Char) : Prop :=
  ∀ character ∈ pattern, isBlank character = false ∧
    punctuation character = none ∧ character ∉ ['"', 'n', 'u', 'l']

instance (pattern : List Char) : Decidable (Foreign pattern) :=
  List.decidableBAll _ pattern

section Substitution

variable {pattern : List Char} (foreign : Foreign pattern)
  (nonempty : pattern ≠ []) (replacement : List Char)
include foreign nonempty

theorem replace_cons_of_foreign {character : Char}
    (stands : isBlank character = true ∨ (punctuation character).isSome ∨
      character ∈ ['"', 'n', 'u', 'l'])
    (rest : List Char) :
    replace pattern replacement (character :: rest) =
      character :: replace pattern replacement rest := by
  have lacks : character ∉ pattern := by
    intro member
    obtain ⟨blank, mark, letter⟩ := foreign character member
    rcases stands with known | known | known
    · simp [blank] at known
    · simp [mark] at known
    · exact letter known
  exact replace_append_cons nonempty lacks replacement [] rest

theorem replace_blank {blank : List Char}
    (all : ∀ character ∈ blank, isBlank character = true) (rest : List Char) :
    replace pattern replacement (blank ++ rest) =
      blank ++ replace pattern replacement rest := by
  induction blank with
  | nil => rfl
  | cons character blank ih =>
    rw [List.cons_append, replace_cons_of_foreign foreign nonempty replacement
      (.inl (all character (by simp))), ih fun other member =>
        all other (by simp [member])]
    rfl

theorem replace_literal (literal rest : List Char) :
    replace pattern replacement (literal ++ '"' :: rest) =
      replace pattern replacement literal ++
        '"' :: replace pattern replacement rest :=
  replace_append_cons nonempty
    (fun member => (foreign _ member).2.2 (by simp)) replacement literal rest

variable (quote : List Char → List Char) (layout : Layout)

theorem replace_key (key rest : List Char) :
    replace pattern replacement
        ('"' :: (quote key ++ ('"' :: ':' :: (layout.space ++ rest)))) =
      '"' :: (replace pattern replacement (quote key) ++
        ('"' :: ':' :: (layout.space ++ replace pattern replacement rest))) := by
  rw [replace_cons_of_foreign foreign nonempty replacement (by simp),
    replace_literal foreign nonempty,
    replace_cons_of_foreign foreign nonempty replacement (by simp [punctuation]),
    replace_blank foreign nonempty replacement layout.blank_space]

end Substitution

section SubstitutionInPrint

variable {pattern : List Char} (replacement : List Char)
  (quote : List Char → List Char) (layout : Layout)

mutual

theorem replace_print (foreign : Foreign pattern) (nonempty : pattern ≠ [])
    (level : ℕ) :
    ∀ (document : JsonDoc) (rest : List Char),
      replace pattern replacement (document.print quote layout level ++ rest) =
        document.print (replace pattern replacement ∘ quote) layout level ++
          replace pattern replacement rest
  | .null, rest => by
      simp only [JsonDoc.print, List.cons_append, List.nil_append]
      iterate 4
        rw [replace_cons_of_foreign foreign nonempty replacement (by simp)]
  | .str text, rest => by
      simp only [JsonDoc.print, List.cons_append, List.append_assoc,
        List.nil_append]
      rw [replace_cons_of_foreign foreign nonempty replacement (by simp),
        replace_literal foreign nonempty]
      rfl
  | .arr .nil, rest => by
      simp only [JsonDoc.print, List.cons_append, List.nil_append]
      iterate 2 rw [replace_cons_of_foreign foreign nonempty replacement
          (by simp [punctuation])]
  | .arr (.cons item items), rest => by
      simp only [JsonDoc.print, List.cons_append, List.append_assoc,
        List.nil_append]
      rw [replace_cons_of_foreign foreign nonempty replacement
          (by simp [punctuation]),
        replace_blank foreign nonempty replacement (layout.blank_break _),
        replace_print foreign nonempty, replace_print_items foreign nonempty,
        replace_blank foreign nonempty replacement (layout.blank_break _),
        replace_cons_of_foreign foreign nonempty replacement
          (by simp [punctuation])]
  | .obj .nil, rest => by
      simp only [JsonDoc.print, List.cons_append, List.nil_append]
      iterate 2 rw [replace_cons_of_foreign foreign nonempty replacement
          (by simp [punctuation])]
  | .obj (.cons key value pairs), rest => by
      simp only [JsonDoc.print, List.cons_append, List.append_assoc,
        List.nil_append]
      rw [replace_cons_of_foreign foreign nonempty replacement
          (by simp [punctuation]),
        replace_blank foreign nonempty replacement (layout.blank_break _),
        replace_key foreign nonempty, replace_print foreign nonempty,
        replace_print_pairs foreign nonempty,
        replace_blank foreign nonempty replacement (layout.blank_break _),
        replace_cons_of_foreign foreign nonempty replacement
          (by simp [punctuation])]
      rfl

theorem replace_print_items (foreign : Foreign pattern)
    (nonempty : pattern ≠ []) (level : ℕ) :
    ∀ (items : JsonDocs) (rest : List Char),
      replace pattern replacement (items.print quote layout level ++ rest) =
        items.print (replace pattern replacement ∘ quote) layout level ++
          replace pattern replacement rest
  | .nil, _ => rfl
  | .cons item items, rest => by
      simp only [JsonDocs.print, List.cons_append, List.append_assoc]
      rw [replace_cons_of_foreign foreign nonempty replacement
          (by simp [punctuation]),
        replace_blank foreign nonempty replacement (layout.blank_break _),
        replace_print foreign nonempty, replace_print_items foreign nonempty]

theorem replace_print_pairs (foreign : Foreign pattern)
    (nonempty : pattern ≠ []) (level : ℕ) :
    ∀ (pairs : JsonPairs) (rest : List Char),
      replace pattern replacement (pairs.print quote layout level ++ rest) =
        pairs.print (replace pattern replacement ∘ quote) layout level ++
          replace pattern replacement rest
  | .nil, _ => rfl
  | .cons key value pairs, rest => by
      simp only [JsonPairs.print, List.cons_append, List.append_assoc]
      rw [replace_cons_of_foreign foreign nonempty replacement
          (by simp [punctuation]),
        replace_blank foreign nonempty replacement (layout.blank_break _),
        replace_key foreign nonempty, replace_print foreign nonempty,
        replace_print_pairs foreign nonempty]
      rfl

end

end SubstitutionInPrint

/-! ## The characters of a written document -/

/-- A property of the marks, of what a layout puts in, and of literals. -/
structure Everywhere
    (holds : Char → Prop)
    (quote : List Char → List Char)
    (layout : Layout) : Prop where
  quotation : holds '"'
  punctuation : ∀ character ∈ [':', ',', '[', ']', '{', '}'], holds character
  null : ∀ character ∈ ['n', 'u', 'l', 'l'], holds character
  breaks : ∀ level, ∀ character ∈ layout.break_ level, holds character
  space : ∀ character ∈ layout.space, holds character
  literals : ∀ text, ∀ character ∈ quote text, holds character

section Characters

variable {holds : Char → Prop} {quote : List Char → List Char} {layout : Layout}
  (each : Everywhere holds quote layout)
include each

mutual

theorem Everywhere.of_mem_print (level : ℕ) :
    ∀ document : JsonDoc, ∀ character ∈ document.print quote layout level,
      holds character
  | .null => each.null
  | .str text => by
      simp only [JsonDoc.print, List.forall_mem_cons, List.forall_mem_append]
      exact ⟨each.quotation, each.literals text, each.quotation, nofun⟩
  | .arr .nil => by
      simp only [JsonDoc.print, List.forall_mem_cons]
      exact ⟨each.punctuation _ (by simp), each.punctuation _ (by simp), nofun⟩
  | .arr (.cons item items) => by
      have first := of_mem_print (level + 1) item
      have others := of_mem_print_items (level + 1) items
      simp only [JsonDoc.print, List.forall_mem_cons, List.forall_mem_append]
      exact ⟨each.punctuation _ (by simp), each.breaks _, first, others,
        each.breaks _, each.punctuation _ (by simp), nofun⟩
  | .obj .nil => by
      simp only [JsonDoc.print, List.forall_mem_cons]
      exact ⟨each.punctuation _ (by simp), each.punctuation _ (by simp), nofun⟩
  | .obj (.cons key value pairs) => by
      have first := of_mem_print (level + 1) value
      have others := of_mem_print_pairs (level + 1) pairs
      simp only [JsonDoc.print, List.forall_mem_cons, List.forall_mem_append]
      exact ⟨each.punctuation _ (by simp), each.breaks _, each.quotation,
        each.literals key, each.quotation, each.punctuation _ (by simp),
        each.space, first, others, each.breaks _,
        each.punctuation _ (by simp), nofun⟩

theorem Everywhere.of_mem_print_items (level : ℕ) :
    ∀ items : JsonDocs, ∀ character ∈ items.print quote layout level,
      holds character
  | .nil => nofun
  | .cons item items => by
      have first := of_mem_print level item
      have others := of_mem_print_items level items
      simp only [JsonDocs.print, List.forall_mem_cons, List.forall_mem_append]
      exact ⟨each.punctuation _ (by simp), each.breaks _, first, others⟩

theorem Everywhere.of_mem_print_pairs (level : ℕ) :
    ∀ pairs : JsonPairs, ∀ character ∈ pairs.print quote layout level,
      holds character
  | .nil => nofun
  | .cons key value pairs => by
      have first := of_mem_print level value
      have others := of_mem_print_pairs level pairs
      simp only [JsonPairs.print, List.forall_mem_cons, List.forall_mem_append]
      exact ⟨each.punctuation _ (by simp), each.breaks _, each.quotation,
        each.literals key, each.quotation, each.punctuation _ (by simp),
        each.space, first, others⟩

end

end Characters

/-- What holds of each member of a list is found by going through it. -/
theorem forall_mem_of_all {holds : Char → Prop} [DecidablePred holds]
    {text : List Char}
    (all : text.all (fun character => decide (holds character)) = true) :
    ∀ character ∈ text, holds character := by
  simpa using all

theorem newline_not_mem_dumps_compact (document : JsonDoc) :
    '\n' ∉ document.dumps compact := by
  have each : Everywhere (· ≠ '\n') (List.flatMap escape) compact := {
    quotation := by decide
    punctuation := forall_mem_of_all (by decide)
    null := forall_mem_of_all (by decide)
    breaks := fun _ _ inside => absurd inside List.not_mem_nil
    space := fun _ inside => absurd inside List.not_mem_nil
    literals := by
      rintro text character inside rfl
      exact newline_not_mem_escape text inside }
  exact fun member => each.of_mem_print 0 document '\n' member rfl

/-! ## How lines begin -/

/-- No line begins with the character; the text begins a line if `atStart`
says so. -/
def NoLineStart (character : Char) : Bool → List Char → Prop
  | _, [] => True
  | atStart, first :: rest =>
    (atStart = true → first ≠ character) ∧
      NoLineStart character (first = '\n') rest

section NoLineStart

variable {character : Char}

variable {text first rest : List Char} {atStart : Bool}
  {lines : List (List Char)}

theorem NoLineStart.weaken (holds : NoLineStart character true text)
    (atStart : Bool) :
    NoLineStart character atStart text := by
  cases text with
  | nil => trivial
  | cons first rest => exact ⟨fun _ => holds.1 rfl, holds.2⟩

theorem NoLineStart.append (holds : NoLineStart character atStart first)
    (later : NoLineStart character true rest) :
    NoLineStart character atStart (first ++ rest) := by
  induction first generalizing atStart with
  | nil => exact later.weaken atStart
  | cons other first ih => exact ⟨holds.1, ih holds.2⟩

theorem NoLineStart.append_of_getLast
    (holds : NoLineStart character atStart first) {last : Char}
    (ends : first.getLast? = some last) (within : last ≠ '\n')
    (later : NoLineStart character false rest) :
    NoLineStart character atStart (first ++ rest) := by
  induction first generalizing atStart with
  | nil => cases ends
  | cons other first ih =>
    cases first with
    | nil =>
      obtain rfl : other = last := by simpa using ends
      exact ⟨holds.1, by rwa [decide_eq_false within]⟩
    | cons next first => exact ⟨holds.1, ih holds.2 (by simpa using ends)⟩

theorem noLineStart_append_of_single_line (single : '\n' ∉ text)
    (later : NoLineStart character false rest) :
    NoLineStart character false (text ++ rest) := by
  induction text with
  | nil => exact later
  | cons first text ih =>
    rw [List.mem_cons, not_or] at single
    refine ⟨nofun, ?_⟩
    rw [decide_eq_false (Ne.symm single.1)]
    exact ih single.2

theorem noLineStart_of_single_line (single : '\n' ∉ text) :
    NoLineStart character false text := by
  have whole : NoLineStart character false (text ++ []) :=
    noLineStart_append_of_single_line single trivial
  rwa [List.append_nil] at whole

theorem noLineStart_intercalate (different : '\n' ≠ character)
    (single : ∀ line ∈ lines, '\n' ∉ line)
    (begins : ∀ line ∈ lines, line.head? ≠ some character) :
    NoLineStart character true (['\n'].intercalate lines) := by
  have each : ∀ line : List Char, '\n' ∉ line → line.head? ≠ some character →
      NoLineStart character true line := by
    intro line single begins
    cases line with
    | nil => trivial
    | cons first line =>
      rw [List.mem_cons, not_or] at single
      refine ⟨fun _ same => begins (by simp [same]), ?_⟩
      rw [decide_eq_false (Ne.symm single.1)]
      exact noLineStart_of_single_line single.2
  induction lines with
  | nil => trivial
  | cons line lines ih =>
    have here := each line (single line (by simp)) (begins line (by simp))
    have later := ih (fun other member => single other (by simp [member]))
      fun other member => begins other (by simp [member])
    cases lines with
    | nil => simpa using here
    | cons next lines =>
      rw [List.intercalate_cons_cons, List.append_assoc]
      exact here.append ⟨fun _ => different, later⟩

/-- Joined lines end in one. -/
theorem getLast?_intercalate_lines (nonempty : lines ≠ [])
    (each : ∀ line ∈ lines, '\n' ∉ line ∧ line ≠ []) :
    ∃ last, (['\n'].intercalate lines).getLast? = some last ∧ last ≠ '\n' := by
  induction lines with
  | nil => exact absurd rfl nonempty
  | cons line lines ih =>
    cases lines with
    | nil =>
      obtain ⟨single, written⟩ := each line (by simp)
      refine ⟨line.getLast written, ?_, ?_⟩
      · rw [List.intercalate_singleton, List.getLast?_eq_getLast_of_ne_nil]
      · intro same
        exact single (same ▸ List.getLast_mem written)
    | cons next lines =>
      obtain ⟨last, ends, within⟩ := ih (by simp)
        fun other member => each other (by simp [member])
      refine ⟨last, ?_, within⟩
      rw [List.intercalate_cons_cons, List.append_assoc, List.getLast?_append,
        List.getLast?_append, ends]
      rfl

theorem noLineStart_intercalate_of_getLast {between : List Char}
    (holds : NoLineStart character true between)
    (ends : between = [] ∨ ∃ last, between.getLast? = some last ∧ last ≠ '\n')
    {pieces : List (List Char)} (single : ∀ piece ∈ pieces, '\n' ∉ piece) :
    NoLineStart character false (between.intercalate pieces) := by
  induction pieces with
  | nil => trivial
  | cons piece pieces ih =>
    have here : NoLineStart character false piece :=
      noLineStart_of_single_line (single piece (by simp))
    cases pieces with
    | nil => simpa using here
    | cons next pieces =>
      have later := ih fun other member =>
        single other (by simp [member])
      rw [List.intercalate_cons_cons, List.append_assoc]
      rcases ends with rfl | ⟨last, ends, within⟩
      · exact noLineStart_append_of_single_line (single piece (by simp)) later
      · exact here.append (holds.append_of_getLast ends within later)

theorem NoLineStart.splitOn (holds : NoLineStart character true text) :
    ∀ line ∈ text.splitOn '\n', line.head? ≠ some character := by
  have each : ∀ (text : List Char) (atStart : Bool),
      NoLineStart character atStart text →
        ∃ line lines, text.splitOn '\n' = line :: lines ∧
          (atStart = true → line.head? ≠ some character) ∧
            ∀ other ∈ lines, other.head? ≠ some character := by
    intro text
    induction text with
    | nil => exact fun _ _ => ⟨[], [], rfl, by simp, by simp⟩
    | cons first rest ih =>
      intro atStart ⟨here, later⟩
      obtain ⟨line, lines, split, begins, others⟩ := ih _ later
      by_cases newline : first = '\n'
      · refine ⟨[], line :: lines, ?_, by simp, ?_⟩
        · simp [List.splitOn_cons_eq_if_modifyHead, newline, split]
        · intro other member
          rcases List.mem_cons.mp member with rfl | member
          · exact begins (decide_eq_true newline)
          · exact others other member
      · refine ⟨first :: line, lines, ?_, ?_, others⟩
        · simp [List.splitOn_cons_eq_if_modifyHead, newline, split]
        · intro start
          simpa using here start
  obtain ⟨line, lines, split, begins, others⟩ := each text true holds
  intro other member
  rw [split] at member
  rcases List.mem_cons.mp member with rfl | member
  · exact begins rfl
  · exact others other member

theorem noLineStart_cons (foreign : Foreign [character]) {first : Char}
    {rest : List Char}
    (stands : isBlank first = true ∨ (punctuation first).isSome ∨
      first ∈ ['"', 'n', 'u', 'l'])
    (later : NoLineStart character true rest) :
    NoLineStart character true (first :: rest) := by
  refine ⟨?_, later.weaken _⟩
  rintro - rfl
  obtain ⟨blank, mark, letter⟩ := foreign first (by simp)
  rcases stands with known | known | known
  · simp [blank] at known
  · simp [mark] at known
  · exact letter known

theorem noLineStart_blank (foreign : Foreign [character]) {blank : List Char}
    (all : ∀ character ∈ blank, isBlank character = true)
    (later : NoLineStart character true rest) :
    NoLineStart character true (blank ++ rest) := by
  induction blank with
  | nil => exact later
  | cons first blank ih =>
    exact noLineStart_cons foreign (.inl (all first (by simp)))
      (ih fun other member => all other (by simp [member]))

theorem noLineStart_literal (foreign : Foreign [character])
    {literal : List Char} (inside : NoLineStart character false literal)
    (later : NoLineStart character true rest) :
    NoLineStart character true ('"' :: (literal ++ '"' :: rest)) := by
  refine ⟨?_, inside.append (noLineStart_cons foreign (by simp) later)⟩
  rintro - rfl
  exact (foreign '"' (by simp)).2.2 (by simp)

variable (quote : List Char → List Char) (layout : Layout)

mutual

theorem noLineStart_print (foreign : Foreign [character]) (level : ℕ) :
    ∀ (document : JsonDoc) {rest : List Char},
      (∀ text ∈ document.strings, NoLineStart character false (quote text)) →
        NoLineStart character true rest → NoLineStart character true
            (document.print quote layout level ++ rest)
  | .null, rest, _, later => by
      simp only [JsonDoc.print, List.cons_append, List.nil_append]
      iterate 4 refine noLineStart_cons foreign (by simp) ?_
      exact later
  | .str text, rest, literals, later => by
      simp only [JsonDoc.print, List.cons_append, List.append_assoc,
        List.nil_append]
      exact noLineStart_literal foreign
        (literals text (by simp [JsonDoc.strings])) later
  | .arr .nil, rest, _, later => by
      simp only [JsonDoc.print, List.cons_append, List.nil_append]
      iterate 2 refine noLineStart_cons foreign (by simp [punctuation]) ?_
      exact later
  | .arr (.cons item items), rest, literals, later => by
      simp only [JsonDoc.strings, JsonDocs.strings,
        List.forall_mem_append] at literals
      simp only [JsonDoc.print, List.cons_append, List.append_assoc,
        List.nil_append]
      refine noLineStart_cons foreign (by simp [punctuation]) ?_
      refine noLineStart_blank foreign (layout.blank_break _) ?_
      refine noLineStart_print foreign _ item literals.1 ?_
      refine noLineStart_print_items foreign _ items literals.2 ?_
      refine noLineStart_blank foreign (layout.blank_break _) ?_
      exact noLineStart_cons foreign (by simp [punctuation]) later
  | .obj .nil, rest, _, later => by
      simp only [JsonDoc.print, List.cons_append, List.nil_append]
      iterate 2 refine noLineStart_cons foreign (by simp [punctuation]) ?_
      exact later
  | .obj (.cons key value pairs), rest, literals, later => by
      simp only [JsonDoc.strings, JsonPairs.strings, List.forall_mem_cons,
        List.forall_mem_append] at literals
      simp only [JsonDoc.print, List.cons_append, List.append_assoc,
        List.nil_append]
      refine noLineStart_cons foreign (by simp [punctuation]) ?_
      refine noLineStart_blank foreign (layout.blank_break _) ?_
      refine noLineStart_literal foreign literals.1 ?_
      refine noLineStart_cons foreign (by simp [punctuation]) ?_
      refine noLineStart_blank foreign layout.blank_space ?_
      refine noLineStart_print foreign _ value literals.2.1 ?_
      refine noLineStart_print_pairs foreign _ pairs literals.2.2 ?_
      refine noLineStart_blank foreign (layout.blank_break _) ?_
      exact noLineStart_cons foreign (by simp [punctuation]) later

theorem noLineStart_print_items (foreign : Foreign [character]) (level : ℕ) :
    ∀ (items : JsonDocs) {rest : List Char},
      (∀ text ∈ items.strings, NoLineStart character false (quote text)) →
        NoLineStart character true rest →
          NoLineStart character true (items.print quote layout level ++ rest)
  | .nil, _, _, later => later
  | .cons item items, rest, literals, later => by
      simp only [JsonDocs.strings, List.forall_mem_append] at literals
      simp only [JsonDocs.print, List.cons_append, List.append_assoc]
      refine noLineStart_cons foreign (by simp [punctuation]) ?_
      refine noLineStart_blank foreign (layout.blank_break _) ?_
      refine noLineStart_print foreign _ item literals.1 ?_
      exact noLineStart_print_items foreign _ items literals.2 later

theorem noLineStart_print_pairs (foreign : Foreign [character]) (level : ℕ) :
    ∀ (pairs : JsonPairs) {rest : List Char},
      (∀ text ∈ pairs.strings, NoLineStart character false (quote text)) →
        NoLineStart character true rest →
          NoLineStart character true (pairs.print quote layout level ++ rest)
  | .nil, _, _, later => later
  | .cons key value pairs, rest, literals, later => by
      simp only [JsonPairs.strings, List.forall_mem_cons,
        List.forall_mem_append] at literals
      simp only [JsonPairs.print, List.cons_append, List.append_assoc]
      refine noLineStart_cons foreign (by simp [punctuation]) ?_
      refine noLineStart_blank foreign (layout.blank_break _) ?_
      refine noLineStart_literal foreign literals.1 ?_
      refine noLineStart_cons foreign (by simp [punctuation]) ?_
      refine noLineStart_blank foreign layout.blank_space ?_
      refine noLineStart_print foreign _ value literals.2.1 ?_
      exact noLineStart_print_pairs foreign _ pairs literals.2.2 later

end

end NoLineStart

end JsonText
