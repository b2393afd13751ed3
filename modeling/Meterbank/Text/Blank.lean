/-
  Meterbank.Text.Blank — which characters count as blank, and trimming.

  Texts that carry a number or a database name may be surrounded by
  blanks.  Blank means the Unicode property White_Space, which is wider
  than the ASCII blanks core knows about.
-/

namespace Meterbank.Text

/-! ## The property White_Space -/

/-- The characters of the Unicode property White_Space. -/
def isBlank (c : Char) : Bool :=
  let n := c.toNat
  (9 ≤ n && n ≤ 13) || n == 0x20 || n == 0x85 || n == 0xA0 || n == 0x1680 ||
    (0x2000 ≤ n && n ≤ 0x200A) || n == 0x2028 || n == 0x2029 || n == 0x202F ||
    n == 0x205F || n == 0x3000

/-! ## Trimming -/

/-- The characters without the blanks at either end. -/
def trimChars (cs : List Char) : List Char :=
  ((cs.dropWhile isBlank).reverse.dropWhile isBlank).reverse

/-- The text without the blanks at either end. -/
def trim (s : String) : String :=
  String.ofList (trimChars s.toList)

/-- A list whose ends are not blank is left alone. -/
theorem trimChars_eq_self (cs : List Char)
    (hd : cs.head?.all (! isBlank ·)) (tl : cs.getLast?.all (! isBlank ·)) :
    trimChars cs = cs := by
  have h1 : cs.dropWhile isBlank = cs := by
    cases cs with
    | nil => rfl
    | cons c r => simp_all [List.dropWhile]
  have h2 : cs.reverse.dropWhile isBlank = cs.reverse := by
    rcases hr : cs.reverse with _ | ⟨c, r⟩
    · rfl
    · have : cs.getLast? = some c := by
        rw [← List.head?_reverse, hr]; rfl
      simp_all [List.dropWhile]
  rw [trimChars, h1, h2, List.reverse_reverse]

end Meterbank.Text
