/-!
Command lines: options, operands, and words that are neither.

Each word is classified before any is acted on.  A word is an option if a rule has its name
or an unambiguous start of it; it is an operand if it does not look like an option; the
first double hyphen makes all words after it operands.
-/

namespace Sexpr.Command

inductive Action (σ : Type) where
  | help
  | change (apply : σ → σ)
  /-- Change the settings by a value, or say what is wrong with it.  A double hyphen stands
  for no value. -/
  | take (apply : Option String → σ → Except String σ)

structure Rule (σ : Type) where
  names : List String
  action : Action σ

namespace Rule

variable {σ : Type}

def title (rule : Rule σ) : String := "/".intercalate rule.names

def byName (rules : List (Rule σ)) : List (String × Rule σ) :=
  rules.flatMap fun rule => rule.names.map (·, rule)

def find? (rules : List (Rule σ)) (name : String) : Option (Rule σ) :=
  (byName rules).lookup name

end Rule

structure Recognised (σ : Type) where
  name : String
  rule : Rule σ
  /-- The text after an equals sign, or right after a name of one letter. -/
  attached : Option (List Char)

inductive Word (σ : Type) where
  | operand (text : String)
  | separator
  | option (text : String) (found : Recognised σ)
  | unknown (text : String)

namespace Word

variable {σ : Type}

def text : Word σ → String
  | .operand text | .option text _ | .unknown text => text
  | .separator => "--"

def splitValue (word : List Char) : List Char × Option (List Char) :=
  match word.dropWhile (· != '=') with
  | [] => (word, none)
  | _ :: value => (word.takeWhile (· != '='), some value)

/-- The options that a word may mean by the start of a name. -/
def candidates (rules : List (Rule σ)) (word : List Char) : List (Recognised σ) :=
  match word with
  | '-' :: '-' :: _ =>
      let (start, attached) := splitValue word
      (Rule.byName rules).filterMap fun (name, rule) =>
        if start.isPrefixOf name.toList then some ⟨name, rule, attached⟩ else none
  | _ =>
      (Rule.byName rules).filterMap fun (name, rule) =>
        if name.toList = word.take 2 then some ⟨name, rule, some (word.drop 2)⟩
        else if word.isPrefixOf name.toList then some ⟨name, rule, none⟩
        else none

def named? (rules : List (Rule σ)) (word : List Char) : Option (Recognised σ) :=
  let whole := String.ofList word
  match Rule.find? rules whole with
  | some rule => some ⟨whole, rule, none⟩
  | none =>
      match splitValue word with
      | (_, none) => none
      | (start, some value) =>
          let name := String.ofList start
          (Rule.find? rules name).map fun rule => ⟨name, rule, some value⟩

/-- Classify a word that starts with a hyphen and is longer.  A word that means no option is
an operand if it looks like a negative number or has a space. -/
def ofHyphenated (looksNegative : List Char → Bool) (rules : List (Rule σ)) (word : List Char) :
    Except String (Word σ) :=
  let whole := String.ofList word
  match named? rules word with
  | some found => .ok (.option whole found)
  | none =>
      match candidates rules word with
      | [found] => .ok (.option whole found)
      | [] =>
          if looksNegative word || word.contains ' ' then .ok (.operand whole)
          else .ok (.unknown whole)
      | several =>
          .error ("ambiguous option: " ++ whole ++ " could match " ++
            ", ".intercalate (several.map (·.name)))

def ofText (looksNegative : List Char → Bool) (rules : List (Rule σ)) (text : String) :
    Except String (Word σ) :=
  match text.toList with
  | '-' :: c :: rest => ofHyphenated looksNegative rules ('-' :: c :: rest)
  | _ => .ok (.operand text)

def classify (looksNegative : List Char → Bool) (rules : List (Rule σ)) :
    List String → Except String (List (Word σ))
  | [] => .ok []
  | text :: rest =>
      -- After the separator every word is an operand.
      if text = "--" then .ok (.separator :: rest.map .operand)
      else do
        let word ← ofText looksNegative rules text
        return word :: (← classify looksNegative rules rest)

end Word

end Sexpr.Command
