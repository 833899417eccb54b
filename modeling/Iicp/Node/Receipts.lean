import Iicp.Dispatch.TrustBundle
import Iicp.Rust.Bytes
import Iicp.Rust.Str
import Iicp.Stream.SelfDelimiting

/-!
# Worker receipts

After a task a node reports its completion to the directory with a receipt (`postCipReceipt`). The
receipt is signed over one text: the task, the tokens, the nonce, the hash of the response and, if
there is one, the querying node, with colons between them (`Receipt.canonical`). The task and the
querying node are texts from the request, at the two ends of the signed text, and may hold colons.

`resplit` finds all the ways to read the signed text as that of another receipt: the fields in the
middle of the one stand inside the task or the querying node of the other
(`receipt_identified_iff`).
-/

namespace Iicp.Node

open Rust Iicp.Stream List

/-! ### Receipts and their signed text -/

structure Receipt where
  taskId : String
  tokensUsed : UInt64
  nonce : String
  responseHash : String
  queryingNodeId : Option String
  nonce_hex : IsHex 32 nonce
  responseHash_hex : IsHex 64 responseHash
  queryingNodeId_ne : queryingNodeId ≠ some ""

variable (tokensUsed : UInt64)

/-- The fields in the middle of the signed text, with their separators. -/
def signedMiddle (nonce responseHash : String) : String :=
  ":" ++ toString tokensUsed.toNat ++ ":::" ++ nonce ++ ":" ++ responseHash

namespace Receipt

def canonical (receipt : Receipt) : String :=
  match receipt.queryingNodeId with
  | some querying =>
    receipt.taskId ++ signedMiddle receipt.tokensUsed receipt.nonce receipt.responseHash ++ ":" ++
      querying
  | none => receipt.taskId ++ signedMiddle receipt.tokensUsed receipt.nonce receipt.responseHash

end Receipt

/-! ### Posting a receipt -/

/-- The hash and the signature of the libraries, and the texts of floats. -/
structure ReceiptCrates where
  sha256 : List UInt8 → List.Vector UInt8 32
  hmacSha256 : List UInt8 → List UInt8 → List UInt8
  floatText : UInt64 → List Char

structure AwardRequest where
  url : String
  authorization : String
  body : Json

section Posting

variable (crates : ReceiptCrates)

/-- The text of a value with the entries of every object in key order. -/
def canonicalJsonNode (value : Json) : String :=
  String.ofList (Dispatch.canonicalTicketClaims crates.floatText value)

/-- The receipt for a result, with the bytes of a fresh nonce. -/
def newReceipt (taskId : String) (tokensUsed : UInt64) (result : Json)
    (queryingNodeId : Option String) (nonce : List.Vector UInt8 16) : Receipt where
  taskId := taskId
  tokensUsed := tokensUsed
  nonce := hexEncode nonce.toList
  responseHash := hexEncode (crates.sha256 (utf8Bytes (canonicalJsonNode crates result))).toList
  queryingNodeId := queryingNodeId.filter (· ≠ "")
  nonce_hex := by
    have hhex := isHex_hexEncode nonce.toList
    rwa [List.Vector.toList_length] at hhex
  responseHash_hex := by
    have hhex := isHex_hexEncode
      (crates.sha256 (utf8Bytes (canonicalJsonNode crates result))).toList
    rwa [List.Vector.toList_length] at hhex
  queryingNodeId_ne := by
    intro hempty
    have hne := (Option.filter_eq_some_iff.mp hempty).2
    simp at hne

def receiptSignature (hmacKey : String) (receipt : Receipt) : String :=
  hexEncode (crates.hmacSha256 (utf8Bytes hmacKey) (utf8Bytes receipt.canonical))

/-- The fields that a receipt is reported with. -/
def awardBody (hmacKey nodeId expiresAt : String) (receipt : Receipt) : Json :=
  let amount := (max receipt.tokensUsed 1).toFloat / 1000
  .object (Json.present [("amount", some (.number (.float amount.toBits))),
    ("expires_at", some (.string expiresAt)), ("node_id", some (.string nodeId)),
    ("nonce", some (.string receipt.nonce)),
    ("querying_node_id", receipt.queryingNodeId.map .string),
    ("reason", some (.string "task_completion")),
    ("response_hash", some (.string receipt.responseHash)),
    ("signature", some (.string (receiptSignature crates hmacKey receipt))),
    ("task_id", some (.string receipt.taskId)),
    ("tokens_used", some (.number (.posInt receipt.tokensUsed)))])

/-- The request for a receipt; without a token or a key there is none. -/
def postCipReceipt (directoryUrl token hmacKey nodeId taskId : String) (tokensUsed : UInt64)
    (result : Json) (queryingNodeId : Option String) (nonce : List.Vector UInt8 16)
    (expiresAt : String) : Option AwardRequest :=
  if token = "" ∨ hmacKey = "" then none
  else
    let receipt := newReceipt crates taskId tokensUsed result queryingNodeId nonce
    some ⟨trimEndMatches '/' directoryUrl ++ "/v1/credits/award", "Bearer " ++ token,
      awardBody crates hmacKey nodeId expiresAt receipt⟩

end Posting

/-! ### Reading the signed text -/

/-- The fields in the middle of a signed text: a number of at most twenty digits, 32 digits and 64
digits, without separators. -/
@[ext] structure Middle where
  (tokens nonce hash : List Char)
  tokens_ne : tokens ≠ []
  tokens_clean : ':' ∉ tokens
  tokens_short : tokens.length < 32
  nonce_clean : ':' ∉ nonce
  nonce_length : nonce.length = 32
  hash_clean : ':' ∉ hash
  hash_length : hash.length = 64

namespace Middle

variable {middle other : Middle} {tail last : List Char}

def text (middle : Middle) : List Char :=
  ':' :: (middle.tokens ++ ':' :: ':' :: ':' :: (middle.nonce ++ ':' :: middle.hash))

/-- What may follow a middle: nothing, or another field. -/
def Follows (tail : List Char) : Prop := tail = [] ∨ ∃ rest, tail = ':' :: rest

lemma text_append_inj (heq : middle.text ++ tail = other.text ++ last) :
    middle = other ∧ tail = last := by
  simp only [text, cons_append, append_assoc] at heq
  obtain ⟨htokens, hrest⟩ :=
    append_separator_inj middle.tokens_clean other.tokens_clean (cons.inj heq).2
  have hrest := (cons.inj (cons.inj hrest).2).2
  obtain ⟨hnonce, hrest⟩ :=
    append_inj hrest (middle.nonce_length.trans other.nonce_length.symm)
  obtain ⟨hhash, htail⟩ := append_inj (cons.inj hrest).2
    (middle.hash_length.trans other.hash_length.symm)
  exact ⟨Middle.ext htokens hnonce hhash, htail⟩

/-- Assumes: a rest that begins inside a middle, after its first separator. No middle begins with
this rest. -/
lemma text_not_inside {before rest : List Char} (htext : middle.text = ':' :: before ++ ':' :: rest)
    (htail : Follows tail) : ':' :: rest ++ tail ≠ other.text ++ last := by
  intro heq
  obtain ⟨digit, _, hother⟩ := exists_cons_of_ne_nil other.tokens_ne
  have hdigit : digit ≠ ':' := by
    rintro rfl
    exact other.tokens_clean (by rw [hother]; exact mem_cons_self)
  have hfields : rest ++ tail =
      other.tokens ++ ':' :: (':' :: ':' :: (other.nonce ++ ':' :: other.hash) ++ last) := by
    simpa [text] using heq
  have hnotColon : ∀ more, rest ≠ ':' :: more := by
    rintro _ rfl
    rw [hother] at hfields
    exact hdigit (cons.inj hfields).1.symm
  obtain ⟨after, rfl, hcolons⟩ := separator_after middle.tokens_clean (cons.inj htext).2
  rcases after with _ | ⟨_, _ | ⟨_, _ | ⟨_, after⟩⟩⟩
  · exact hnotColon _ (cons.inj hcolons).2.symm
  · exact hnotColon _ (cons.inj (cons.inj hcolons).2).2.symm
  · have hrest := (cons.inj (cons.inj (cons.inj hcolons).2).2).2
    rw [← hrest, append_assoc, cons_append] at hfields
    have hsame := (append_separator_inj middle.nonce_clean other.tokens_clean hfields).1
    have hlength := other.tokens_short
    rw [← hsame, middle.nonce_length] at hlength
    exact lt_irrefl _ hlength
  · have hnonce := (cons.inj (cons.inj (cons.inj hcolons).2).2).2
    obtain ⟨between, rfl, hhash⟩ := separator_after middle.nonce_clean hnonce
    rcases between with _ | ⟨_, between⟩
    · obtain rfl := (cons.inj hhash).2
      rcases htail with rfl | ⟨field, rfl⟩
      · rw [append_nil] at hfields
        exact middle.hash_clean (by rw [hfields]; simp)
      · have hsame := (append_separator_inj middle.hash_clean other.tokens_clean hfields).1
        have hlength := other.tokens_short
        rw [← hsame, middle.hash_length] at hlength
        omega
    · have hin := (cons.inj hhash).2
      exact middle.hash_clean (by rw [hin]; simp)

/-- Assumes: two readings of one text, of which the first has the shorter task. The readings are the
same, or the second middle stands in what follows the first. -/
lemma resplit {task longer : List Char} (htail : Follows tail)
    (heq : task ++ middle.text ++ tail = longer ++ other.text ++ last)
    (hle : task.length ≤ longer.length) :
    (task = longer ∧ middle = other ∧ tail = last) ∨
      ∃ between, longer = task ++ middle.text ++ between ∧ tail = between ++ other.text ++ last := by
  rw [append_assoc, append_assoc] at heq
  have hlonger : longer = task ++ longer.drop task.length := by
    have htake := congrArg (take task.length) heq
    rw [take_left, take_append_of_le_length hle] at htake
    nth_rewrite 1 [htake]
    rw [take_append_drop]
  generalize longer.drop task.length = more at hlonger
  subst hlonger
  rw [append_assoc, append_cancel_left_eq] at heq
  cases more with
  | nil => exact .inl ⟨(append_nil _).symm, text_append_inj heq⟩
  | cons first =>
    right
    rcases append_eq_append_iff.mp heq with ⟨between, hmore, htail⟩ | ⟨rest, htext, hrest⟩
    · exact ⟨between, by rw [hmore, append_assoc], by rw [htail, append_assoc]⟩
    · have hfirst : first = ':' := (cons.inj htext).1.symm
      cases rest with
      | nil =>
        refine ⟨[], ?_, ?_⟩
        · rw [append_nil, htext, append_nil]
        · rw [nil_append]
          exact hrest.symm
      | cons second =>
        have hsecond : second = ':' := (cons.inj hrest).1.symm
        subst hfirst hsecond
        exact absurd hrest.symm (text_not_inside htext htail)

end Middle

/-! ### Which receipts are identified -/

/-- What follows a middle: nothing, or a field with at least the given number of characters. -/
def EndsOrField (least : ℕ) (after : String) : Prop :=
  after = "" ∨ ∃ field, after = ":" ++ field ∧ least ≤ field.length

/-- A text that holds the middle of a signed text, up to its end or up to a field. -/
def HoldsMiddle (least : ℕ) (text : String) : Prop :=
  ∃ before after, ∃ tokensUsed : UInt64, ∃ nonce hash, IsHex 32 nonce ∧ IsHex 64 hash ∧
    text = before ++ signedMiddle tokensUsed nonce hash ++ after ∧ EndsOrField least after

lemma length_colon : ":".length = 1 := rfl

lemma colon_notMem_of_isHex {length : ℕ} {text : String} (hhex : IsHex length text) :
    ':' ∉ text.toList := by
  intro hcolon
  exact absurd (hhex.2 _ hcolon) (by decide)

def middleOf {nonce hash : String} (hnonce : IsHex 32 nonce) (hhash : IsHex 64 hash) : Middle where
  tokens := Nat.toDigits 10 tokensUsed.toNat
  nonce := nonce.toList
  hash := hash.toList
  tokens_ne := Nat.toDigits_ne_nil
  tokens_clean := by
    intro hcolon
    exact absurd (Nat.isDigit_of_mem_toDigits (by decide) (by decide) hcolon) (by decide)
  tokens_short := by
    have hrange := tokensUsed.toNat_lt
    have hdigits := (Nat.length_toDigits_le_iff (k := 20) (b := 10) (by decide) (by decide)).mpr
      (hrange.trans (by decide))
    omega
  nonce_clean := colon_notMem_of_isHex hnonce
  nonce_length := hnonce.1
  hash_clean := colon_notMem_of_isHex hhash
  hash_length := hhash.1

lemma toList_signedMiddle {nonce hash : String} (hnonce : IsHex 32 nonce) (hhash : IsHex 64 hash) :
    (signedMiddle tokensUsed nonce hash).toList = (middleOf tokensUsed hnonce hhash).text := by
  simp [signedMiddle, Middle.text, middleOf]

namespace Receipt

variable (receipt : Receipt)

def middle : Middle := middleOf receipt.tokensUsed receipt.nonce_hex receipt.responseHash_hex

def tail : String :=
  match receipt.queryingNodeId with
  | some querying => ":" ++ querying
  | none => ""

lemma canonical_eq :
    receipt.canonical = receipt.taskId ++
      signedMiddle receipt.tokensUsed receipt.nonce receipt.responseHash ++ receipt.tail := by
  rw [canonical, tail]
  cases receipt.queryingNodeId with
  | none => rw [String.append_empty]
  | some => exact String.append_assoc

lemma toList_canonical :
    receipt.canonical.toList =
      receipt.taskId.toList ++ receipt.middle.text ++ receipt.tail.toList := by
  rw [canonical_eq, String.toList_append, String.toList_append,
    toList_signedMiddle _ receipt.nonce_hex receipt.responseHash_hex, middle]

lemma endsOrField_tail : EndsOrField 1 receipt.tail := by
  have hne := receipt.queryingNodeId_ne
  unfold tail
  cases hquerying : receipt.queryingNodeId with
  | none => exact .inl rfl
  | some querying =>
    refine .inr ⟨querying, rfl, Nat.one_le_iff_ne_zero.mpr fun hempty ↦ hne ?_⟩
    rw [hquerying, String.length_eq_zero_iff.mp hempty]

lemma eq_of_fields {receipt other : Receipt} (htask : receipt.taskId = other.taskId)
    (hmiddle : receipt.middle = other.middle) (htail : receipt.tail = other.tail) :
    receipt = other := by
  have htokens : receipt.tokensUsed = other.tokensUsed := by
    have hdigits := congrArg (fun middle ↦ Nat.ofDigitChars 10 middle.tokens 0) hmiddle
    simp only [middle, middleOf, Nat.ofDigitChars_ten_toDigits] at hdigits
    exact UInt64.toNat_inj.mp hdigits
  have hnonce : receipt.nonce = other.nonce := String.toList_inj.mp (congrArg Middle.nonce hmiddle)
  have hhash : receipt.responseHash = other.responseHash :=
    String.toList_inj.mp (congrArg Middle.hash hmiddle)
  have hquerying : receipt.queryingNodeId = other.queryingNodeId := by
    unfold tail at htail
    cases hfirst : receipt.queryingNodeId <;> cases hsecond : other.queryingNodeId <;>
      simp_all [String.ext_iff]
  obtain ⟨_, _, _, _, _, _, _, _⟩ := receipt
  obtain ⟨_, _, _, _, _, _, _, _⟩ := other
  simp_all

/-- Every text of the right form is the signed text of a receipt. -/
lemma exists_canonical (taskId : String) (tokensUsed : UInt64) {nonce hash after : String}
    (hnonce : IsHex 32 nonce) (hhash : IsHex 64 hash) (hafter : EndsOrField 1 after) :
    ∃ other : Receipt, other.taskId = taskId ∧
      other.canonical = taskId ++ signedMiddle tokensUsed nonce hash ++ after := by
  rcases hafter with rfl | ⟨field, rfl, hfield⟩
  · exact ⟨⟨taskId, tokensUsed, nonce, hash, none, hnonce, hhash, nofun⟩, rfl, canonical_eq _⟩
  · refine ⟨⟨taskId, tokensUsed, nonce, hash, some field, hnonce, hhash, ?_⟩, rfl, canonical_eq _⟩
    intro hempty
    rw [Option.some.inj hempty] at hfield
    exact absurd hfield (by decide)

/-- Assumes: a task that holds a middle. Then there is another receipt with the signed text, whose
task ends before that middle. -/
lemma exists_of_taskId {receipt : Receipt} (hholds : HoldsMiddle 0 receipt.taskId) :
    ∃ other : Receipt, other.canonical = receipt.canonical ∧ other ≠ receipt := by
  obtain ⟨before, after, tokensUsed, nonce, hash, hnonce, hhash, htask, hafter⟩ := hholds
  set rest := signedMiddle receipt.tokensUsed receipt.nonce receipt.responseHash ++ receipt.tail
    with hrest
  have hfield : EndsOrField 1 (after ++ rest) := by
    right
    rcases hafter with rfl | ⟨field, rfl, _⟩
    · refine ⟨toString receipt.tokensUsed.toNat ++ ":::" ++ receipt.nonce ++ ":" ++
        receipt.responseHash ++ receipt.tail, ?_, ?_⟩
      · rw [hrest, signedMiddle]
        simp only [String.append_assoc, String.empty_append]
      · simp only [String.length_append, length_colon]
        omega
    · refine ⟨field ++ rest, String.append_assoc, ?_⟩
      simp only [hrest, signedMiddle, String.length_append, length_colon]
      omega
  obtain ⟨other, hother, hcanonical⟩ := exists_canonical before tokensUsed hnonce hhash hfield
  refine ⟨other, ?_, ?_⟩
  · rw [hcanonical, canonical_eq, htask, hrest]
    simp only [String.append_assoc]
  · rintro rfl
    have hlength := congrArg String.length (hother.symm.trans htask)
    simp only [signedMiddle, String.length_append, length_colon] at hlength
    omega

/-- Assumes: a querying node that holds a middle, with the separator before it. Then there is another
receipt with the signed text, whose task goes on up to that middle. -/
lemma exists_of_queryingNodeId {receipt : Receipt} (hholds : HoldsMiddle 1 receipt.tail) :
    ∃ other : Receipt, other.canonical = receipt.canonical ∧ other ≠ receipt := by
  obtain ⟨before, _, tokensUsed, nonce, hash, hnonce, hhash, htail, hafter⟩ := hholds
  obtain ⟨other, hother, hcanonical⟩ := exists_canonical
    (receipt.taskId ++ signedMiddle receipt.tokensUsed receipt.nonce receipt.responseHash ++ before)
    tokensUsed hnonce hhash hafter
  refine ⟨other, ?_, ?_⟩
  · rw [hcanonical, canonical_eq, htail]
    simp only [String.append_assoc]
  · rintro rfl
    have hlength := congrArg String.length hother
    simp only [signedMiddle, String.length_append, length_colon] at hlength
    omega

lemma follows_of_endsOrField {least : ℕ} {after : String} (hafter : EndsOrField least after) :
    Middle.Follows after.toList := by
  rcases hafter with rfl | ⟨field, rfl, _⟩
  · exact .inl rfl
  · exact .inr ⟨field.toList, String.toList_append⟩

/-- Assumes: two receipts with one signed text, of which the first has the shorter task. They are
the same, or the task of the second and what follows the middle of the first hold a middle. -/
lemma eq_or_holdsMiddle {receipt other : Receipt} (heq : receipt.canonical = other.canonical)
    (hle : receipt.taskId.toList.length ≤ other.taskId.toList.length) :
    receipt = other ∨ HoldsMiddle 0 other.taskId ∧ HoldsMiddle 1 receipt.tail := by
  have hlists := congrArg String.toList heq
  rw [toList_canonical, toList_canonical] at hlists
  have hfollows := follows_of_endsOrField receipt.endsOrField_tail
  rcases Middle.resplit hfollows hlists hle with
    ⟨htask, hmiddle, htail⟩ | ⟨between, htask, htail⟩
  · exact .inl (eq_of_fields (String.toList_inj.mp htask) hmiddle (String.toList_inj.mp htail))
  · have hbetween : EndsOrField 0 (String.ofList between) := by
      cases between with
      | nil => exact .inl rfl
      | cons first between =>
        rw [htail] at hfollows
        obtain hnil | ⟨_, hfield⟩ := hfollows
        · nomatch hnil
        · obtain ⟨rfl, _⟩ := cons.inj hfield
          exact .inr ⟨String.ofList between, String.toList_inj.mp (by simp), Nat.zero_le _⟩
    refine .inr ⟨⟨receipt.taskId, String.ofList between, receipt.tokensUsed, receipt.nonce,
      receipt.responseHash, receipt.nonce_hex, receipt.responseHash_hex, ?_, hbetween⟩,
      ⟨String.ofList between, other.tail, other.tokensUsed, other.nonce, other.responseHash,
        other.nonce_hex, other.responseHash_hex, ?_, other.endsOrField_tail⟩⟩
    · rw [← String.toList_inj, htask, String.toList_append, String.toList_append,
        toList_signedMiddle _ receipt.nonce_hex receipt.responseHash_hex, String.toList_ofList]
      rfl
    · rw [← String.toList_inj, htail, String.toList_append, String.toList_append,
        toList_signedMiddle _ other.nonce_hex other.responseHash_hex, String.toList_ofList]
      rfl

end Receipt

/-- A receipt is the only one with its signed text exactly if its task holds no middle of a signed
text, up to the end or a separator, and its querying node, after a separator, holds none up to the
end or a non-empty field. -/
theorem receipt_identified_iff (receipt : Receipt) :
    (∀ other : Receipt, other.canonical = receipt.canonical → other = receipt) ↔
      ¬ HoldsMiddle 0 receipt.taskId ∧
        ∀ querying, receipt.queryingNodeId = some querying → ¬ HoldsMiddle 1 (":" ++ querying) := by
  have htail : (∀ querying, receipt.queryingNodeId = some querying →
      ¬ HoldsMiddle 1 (":" ++ querying)) ↔ ¬ HoldsMiddle 1 receipt.tail := by
    unfold Receipt.tail
    cases receipt.queryingNodeId with
    | some => simp
    | none =>
      refine iff_of_true nofun ?_
      rintro ⟨_, _, _, _, hash, _, _, hempty, _⟩
      have hlength := congrArg String.length hempty
      simp only [signedMiddle, String.length_append, length_colon, String.length_empty] at hlength
      omega
  rw [htail]
  constructor
  · intro hunique
    constructor
    · intro hholds
      obtain ⟨other, hcanonical, hne⟩ := Receipt.exists_of_taskId hholds
      exact hne (hunique other hcanonical)
    · intro hholds
      obtain ⟨other, hcanonical, hne⟩ := Receipt.exists_of_queryingNodeId hholds
      exact hne (hunique other hcanonical)
  · rintro ⟨htask, hquerying⟩ other hcanonical
    rcases le_total other.taskId.toList.length receipt.taskId.toList.length with hle | hle
    · rcases Receipt.eq_or_holdsMiddle hcanonical hle with heq | ⟨hholds, _⟩
      · exact heq
      · exact absurd hholds htask
    · rcases Receipt.eq_or_holdsMiddle hcanonical.symm hle with heq | ⟨_, hholds⟩
      · exact heq.symm
      · exact absurd hholds hquerying

/-! ### Two receipts with one signed text -/

def zeroNonce : String := "00000000000000000000000000000000"

def zeroHash : String := zeroNonce ++ zeroNonce

/-- A receipt for the task `a`, queried by a node whose identity holds a middle. -/
def spoofingReceipt : Receipt :=
  ⟨"a", 5, zeroNonce, zeroHash, some ("b:7:::" ++ zeroNonce ++ ":" ++ zeroHash),
    by decide +kernel, by decide +kernel, by decide +kernel⟩

/-- A receipt for another task, queried by no node. -/
def spoofedReceipt : Receipt :=
  ⟨"a:5:::" ++ zeroNonce ++ ":" ++ zeroHash ++ ":b", 7, zeroNonce, zeroHash, none,
    by decide +kernel, by decide +kernel, nofun⟩

theorem receipts_share_signed_text :
    spoofingReceipt.canonical = spoofedReceipt.canonical ∧
      spoofingReceipt.taskId ≠ spoofedReceipt.taskId ∧
      spoofingReceipt.tokensUsed ≠ spoofedReceipt.tokensUsed ∧
      spoofingReceipt.queryingNodeId ≠ spoofedReceipt.queryingNodeId := by
  decide +kernel

end Iicp.Node
