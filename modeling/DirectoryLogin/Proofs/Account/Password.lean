import DirectoryLogin.Account.Password
import DirectoryLogin.Proofs.Digest.Base64
import DirectoryLogin.Proofs.Digest.Length
import DirectoryLogin.Proofs.Text.Cuts

/-!
# New passwords

* `read?_text_ofPassword`: the text under which a new password is stored is read back as its hash;
* `passwordAccepted_ofPassword`: a new password is accepted, whatever it is, if its salt has as
  many bytes as a stored salt may have;
* `passwordAccepted_unversioned`: another text that accepts the same passwords.
-/

namespace DirectoryLogin.PasswordHash

open Digest (Bytes)
open Digest.Argon2 (Params)

variable {password : String} {salt : Bytes}

/-- The salt can be stored. -/
structure Storable (salt : Bytes) : Prop where
  length_ge : 8 ≤ salt.length
  length_le : salt.length ≤ 48

theorem isValueChar_base64Digit {n : Nat} (h : n < 64) :
    isValueChar (Digest.base64Digit n) = true ∧ Digest.base64Digit n ≠ '$' := by
  have hall : ∀ m : Fin 64, isValueChar (Digest.base64Digit m) = true ∧
      Digest.base64Digit m ≠ '$' := by
    decide
  exact hall ⟨n, h⟩

theorem mem_base64 {bytes : Bytes} {c : Char} (h : c ∈ (Digest.base64 bytes).toList) :
    isValueChar c = true ∧ c ≠ '$' := by
  rw [Digest.base64, String.toList_ofList, Digest.base64Chars_eq] at h
  obtain ⟨n, hn, rfl⟩ := List.mem_map.mp h
  exact isValueChar_base64Digit (Digest.sextets_lt bytes n hn)

theorem dollar_notMem_base64 (bytes : Bytes) : '$' ∉ (Digest.base64 bytes).toList :=
  fun h => (mem_base64 h).2 rfl

theorem isSalt_base64 (h : Storable salt) : isSalt (Digest.base64 salt) = true := by
  have hlen : (Digest.base64 salt).length = (4 * salt.length + 2) / 3 := by
    rw [Digest.base64, String.length_ofList, Digest.length_base64Chars]
  have := h.length_ge
  have := h.length_le
  simp only [isSalt, isValue, Bool.and_eq_true, decide_eq_true_eq, List.all_eq_true]
  exact ⟨by omega, by omega, fun c hc => (mem_base64 hc).1⟩

theorem tag?_base64 {tag : Bytes} (h : tag.length = 32) : tag? (Digest.base64 tag) = some tag := by
  simp [tag?, Digest.ofBase64?_base64, h]

/-! ## Reading -/

/-- A hash with the algorithm, the version and the parameters that all new hashes have. -/
def fresh (salt : Option String) (tag : Option Bytes) : PasswordHash :=
  ⟨"argon2id", some 19, [("m", "19456"), ("t", "2"), ("p", "1")], salt, tag⟩

@[simp]
theorem salt_fresh (salt : Option String) (tag : Option Bytes) : (fresh salt tag).salt = salt := rfl

@[simp]
theorem tag_fresh (salt : Option String) (tag : Option Bytes) : (fresh salt tag).tag = tag := rfl

theorem ofPassword_eq (password : String) (salt : Bytes) :
    ofPassword password salt = fresh (some (Digest.base64 salt))
      (some (Digest.Argon2.tag defaultParams (Digest.utf8 password) salt)) := by
  have hparams : [("m", toString defaultParams.memory), ("t", toString defaultParams.passes),
      ("p", toString defaultParams.lanes)] = [("m", "19456"), ("t", "2"), ("p", "1")] := by
    decide
  rw [ofPassword, hparams]
  rfl

theorem text_fresh (salt : String) (tag : Bytes) :
    (fresh (some salt) (some tag)).text = String.intercalate "$"
      ["", "argon2id", "v=19", "m=19456,t=2,p=1", salt, Digest.base64 tag] := by
  have hversion : "v=" ++ toString 19 = "v=19" := by decide
  have hparams : String.intercalate "," ["m" ++ "=" ++ "19456", "t" ++ "=" ++ "2",
      "p" ++ "=" ++ "1"] = "m=19456,t=2,p=1" := by
    decide
  simp only [text, fresh, List.map_cons, List.map_nil, Option.toList_some, List.isEmpty_cons,
    Bool.false_eq_true, ↓reduceIte, List.cons_append, List.nil_append, hversion, hparams]

theorem takeVersion?_new (rest : List String) :
    takeVersion? ("v=19" :: rest) = some (some 19, rest) := by
  have hdrop : Text.dropStart? "v=19" "v=" = some "19" := by decide
  have hcomma : "v=19".toList.contains ',' = false := by decide
  have hnumber : decimal? "19" = some 19 := by decide
  simp only [takeVersion?, hdrop, hcomma, hnumber, Bool.false_eq_true, ↓reduceIte, Option.map_some]

theorem takeParams?_new (rest : List String) : takeParams? ("m=19456,t=2,p=1" :: rest) =
    some ([("m", "19456"), ("t", "2"), ("p", "1")], rest) := by
  have hequals : "m=19456,t=2,p=1".toList.contains '=' = true := by decide
  have hparams : params? "m=19456,t=2,p=1" =
      some [("m", "19456"), ("t", "2"), ("p", "1")] := by
    decide
  simp only [takeParams?, hequals, hparams, ↓reduceIte, Option.map_some]

theorem saltAndTag?_base64 {tag : Bytes} (hs : Storable salt) (ht : tag.length = 32) :
    saltAndTag? [Digest.base64 salt, Digest.base64 tag] =
      some (some (Digest.base64 salt), some tag) := by
  simp [saltAndTag?, isSalt_base64 hs, tag?_base64 ht]

theorem read?_intercalate {fields : List String} (h : ∀ s ∈ fields, '$' ∉ s.toList) :
    read? (String.intercalate "$" ("" :: "argon2id" :: fields)) = (do
      let (version, fields) ← takeVersion? fields
      let (params, fields) ← takeParams? fields
      let (salt, tag) ← saltAndTag? fields
      some ⟨"argon2id", version, params, salt, tag⟩) := by
  have hfree : ∀ s ∈ "" :: "argon2id" :: fields, '$' ∉ s.toList := by
    simp only [List.forall_mem_cons]
    exact ⟨by decide, by decide, h⟩
  have hsplit := Text.splitOn_intercalate (List.cons_ne_nil _ _) hfree
  have hname : isName "argon2id" = true := by decide
  have hdollar : "$" = String.singleton '$' := by decide
  rw [read?, hdollar, hsplit]
  simp only [hname, Bool.not_true, Bool.false_eq_true, ↓reduceIte]

theorem read?_text_fresh {tag : Bytes} (hs : Storable salt) (ht : tag.length = 32) :
    read? (fresh (some (Digest.base64 salt)) (some tag)).text =
      some (fresh (some (Digest.base64 salt)) (some tag)) := by
  have hfree : ∀ s ∈ ["v=19", "m=19456,t=2,p=1", Digest.base64 salt, Digest.base64 tag],
      '$' ∉ s.toList := by
    simp only [List.forall_mem_cons]
    refine ⟨?_, ?_, dollar_notMem_base64 _, dollar_notMem_base64 _, List.forall_mem_nil _⟩
    all_goals decide
  rw [text_fresh, read?_intercalate hfree, takeVersion?_new]
  simp only [Option.bind_eq_bind, Option.bind_some, takeParams?_new, saltAndTag?_base64 hs ht]
  rfl

theorem read?_text_ofPassword (hs : Storable salt) (password : String) :
    read? (ofPassword password salt).text = some (ofPassword password salt) := by
  rw [ofPassword_eq]
  exact read?_text_fresh hs (Digest.Argon2.length_tag (by decide) _ _)

/-! ## Accepting -/

theorem argonParams?_fresh (salt : Option String) (tag : Option Bytes) :
    (fresh salt tag).argonParams? 32 = some defaultParams := by
  have hplain : (fresh none none).argonParams? 32 = some defaultParams := by decide
  exact hplain

/-- A new hash accepts the password that it was made from. -/
theorem accepts_ofPassword (hs : 8 ≤ salt.length) (password : String) :
    (ofPassword password salt).accepts password = true := by
  have hlen : (Digest.Argon2.tag defaultParams (Digest.utf8 password) salt).length = 32 :=
    Digest.Argon2.length_tag (by decide) _ _
  have hlong : ¬ salt.length < 8 := by omega
  rw [ofPassword_eq]
  simp [accepts, tagOf?, hlen, argonParams?_fresh, Digest.ofBase64?_base64, hlong]

theorem passwordAccepted_ofPassword (hs : Storable salt) (password : String) :
    passwordAccepted (ofPassword password salt).text password = true := by
  rw [passwordAccepted, read?_text_ofPassword hs]
  exact accepts_ofPassword hs.length_ge password

/-! ## Versions -/

/-- The hash with its version left out. -/
def unversioned (h : PasswordHash) : PasswordHash := { h with version := none }

theorem text_unversioned (salt : String) (tag : Bytes) :
    (fresh (some salt) (some tag)).unversioned.text = String.intercalate "$"
      ["", "argon2id", "m=19456,t=2,p=1", salt, Digest.base64 tag] := by
  have hparams : String.intercalate "," ["m" ++ "=" ++ "19456", "t" ++ "=" ++ "2",
      "p" ++ "=" ++ "1"] = "m=19456,t=2,p=1" := by
    decide
  simp only [text, unversioned, fresh, List.map_cons, List.map_nil, Option.toList_some,
    Option.toList_none, List.isEmpty_cons, Bool.false_eq_true, ↓reduceIte, List.cons_append,
    List.nil_append, hparams]

theorem read?_text_unversioned (hs : Storable salt) (password : String) :
    read? (ofPassword password salt).unversioned.text =
      some (ofPassword password salt).unversioned := by
  have hlen : (Digest.Argon2.tag defaultParams (Digest.utf8 password) salt).length = 32 :=
    Digest.Argon2.length_tag (by decide) _ _
  rw [ofPassword_eq]
  generalize Digest.Argon2.tag defaultParams (Digest.utf8 password) salt = tag at hlen
  have hfree : ∀ s ∈ ["m=19456,t=2,p=1", Digest.base64 salt, Digest.base64 tag],
      '$' ∉ s.toList := by
    simp only [List.forall_mem_cons]
    refine ⟨?_, dollar_notMem_base64 _, dollar_notMem_base64 _, List.forall_mem_nil _⟩
    decide
  have hplain : takeVersion? ["m=19456,t=2,p=1", Digest.base64 salt, Digest.base64 tag] =
      some (none, ["m=19456,t=2,p=1", Digest.base64 salt, Digest.base64 tag]) := by
    have hdrop : Text.dropStart? "m=19456,t=2,p=1" "v=" = none := by decide
    simp only [takeVersion?, hdrop]
  rw [text_unversioned, read?_intercalate hfree, hplain]
  simp only [Option.bind_eq_bind, Option.bind_some, takeParams?_new, saltAndTag?_base64 hs hlen]
  rfl

/-- A new hash means the same without its version, which is then the newer one. -/
theorem passwordAccepted_unversioned (hs : Storable salt) (password submitted : String) :
    passwordAccepted (ofPassword password salt).unversioned.text submitted =
      passwordAccepted (ofPassword password salt).text submitted := by
  rw [passwordAccepted, passwordAccepted, read?_text_ofPassword hs, read?_text_unversioned hs]
  rfl

end DirectoryLogin.PasswordHash
