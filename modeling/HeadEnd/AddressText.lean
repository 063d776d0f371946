import HeadEnd.Common
import HeadEnd.Lib.IpText
import HeadEnd.Lib.Separated

/-! Socket addresses as texts. -/
namespace HeadEnd
open Text IpText

/-- What holds of the standard library's two functions: what is printed is read back, and a
text that is accepted is not empty and has no comma and no blanks around it. -/
structure AddrText.Lawful (T : AddrText) : Prop where
  parse_toText : ∀ a, T.parse (T.toText a) = some a
  field : ∀ text a, T.parse text = some a → Field ',' text

/-- `FromStr` of a socket address. `bracketed` reads an IPv6 address behind its bracket. -/
def SocketAddr.parse (bracketed : Reader SocketAddr) (text : String) : Option SocketAddr :=
  parseSocketAddr (fun ip port => ⟨.v4 ip, port⟩) bracketed text.toList

/-- The texts of the standard library, but for IPv6 addresses, which are not shortened. -/
def longText : AddrText where
  toText a := String.ofList <|
    match a.ip with
    | .v4 bits => ipv4Chars bits ++ ':' :: Nat.toDigits 10 a.port.toNat
    | .v6 bits => '[' :: (ipv6LongChars bits ++ ']' :: ':' :: Nat.toDigits 10 a.port.toNat)
  parse := SocketAddr.parse (readLongForm fun bits port => ⟨.v6 bits, port⟩)

example : longText.toText ⟨.v4 0x0a000002, 7001⟩ = "10.0.0.2:7001" := by decide +kernel

example : longText.parse "[0:0:0:0:0:0:0:1]:7001" = some ⟨.v6 1, 7001⟩ := by decide +kernel

theorem isWhite_of_isAddrChar {ch : Char} (h : isAddrChar ch = true) : isWhite ch = false := by
  simp only [isAddrChar, Bool.or_eq_true, decide_eq_true_eq] at h
  obtain (((h | rfl) | rfl) | rfl) | rfl := h
  · have hle : ∀ c d : Char, c ≤ d → c.toNat ≤ d.toNat := fun c d hcd => hcd
    have hrange : (48 ≤ ch.toNat ∧ ch.toNat ≤ 57) ∨ (97 ≤ ch.toNat ∧ ch.toNat ≤ 102) ∨
        (65 ≤ ch.toNat ∧ ch.toNat ≤ 70) := by
      unfold hexValue at h
      split_ifs at h with hdigit hlower hupper
      · exact .inl ⟨hle _ _ hdigit.1, hle _ _ hdigit.2⟩
      · exact .inr (.inl ⟨hle _ _ hlower.1, hle _ _ hlower.2⟩)
      · exact .inr (.inr ⟨hle _ _ hupper.1, hle _ _ hupper.2⟩)
      · cases h
    simp only [isWhite, Bool.or_eq_false_iff, Bool.and_eq_false_iff, decide_eq_false_iff_not,
      beq_eq_false_iff_ne]
    omega
  · decide
  · decide
  · decide
  · decide

theorem longText_lawful : longText.Lawful where
  parse_toText a := by
    obtain ⟨ip, port⟩ := a
    cases ip with
    | v4 bits =>
      simp only [longText, SocketAddr.parse, String.toList_ofList, parseSocketAddr_ipv4Chars]
    | v6 bits =>
      simp only [longText, SocketAddr.parse, String.toList_ofList, parseSocketAddr_ipv6LongChars]
  field text a h := by
    obtain ⟨hne, hchars⟩ := of_parseSocketAddr (takes_readLongForm _) h
    refine ⟨fun hempty => hne (by rw [hempty]; rfl), fun hcomma => ?_, ?_⟩
    · exact absurd (hchars ',' hcomma) (by decide)
    · exact trim_of_forall_not_white fun ch hch => isWhite_of_isAddrChar (hchars ch hch)

end HeadEnd
