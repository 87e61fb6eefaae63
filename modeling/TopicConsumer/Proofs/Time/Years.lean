import TopicConsumer.Time.Timestamp

/-!
# The years that can be written

The dates that can be written are bounded by the nanoseconds with which they begin and end.
`representableLocal_iff_inYears` says that these are the dates of the years -9999 to 9999, by the
calendar in which dates are written.
-/

namespace TopicConsumer

/-- So many nanoseconds after the beginning of 1970, the date lies in the years -9999 to 9999. -/
def InYears (n : Int) : Prop :=
  -9999 ≤ (Date.ofDays (n.fdiv nanosPerDay)).year ∧ (Date.ofDays (n.fdiv nanosPerDay)).year ≤ 9999

instance (n : Int) : Decidable (InYears n) := inferInstanceAs (Decidable (_ ∧ _))

/-- Every day lies in one of the 400 years of an era, which begin with March and so have January
from their day 306 on. -/
theorem Date.exists_year_ofDays (days : Int) :
    ∃ era day year begun : Int, days + 719468 = era * 146097 + day ∧ (0 ≤ day ∧ day < 146097) ∧
      (0 ≤ year ∧ year < 400) ∧ begun = 365 * year + year / 4 - year / 100 ∧
      (begun ≤ day ∧ day ≤ begun + 365) ∧
      (Date.ofDays days).year = era * 400 + year + if begun + 306 ≤ day then 1 else 0 := by
  simp (disch := decide) only [Date.ofDays, Int.fdiv_eq_ediv_of_nonneg]
  generalize eraEq : (days + 719468) / 146097 = era
  generalize dayEq : days + 719468 - era * 146097 = day
  have inEra : 0 ≤ day ∧ day < 146097 := by omega
  generalize yearEq : (day - day / 1460 + day / 36524 - day / 146096) / 365 = year
  have inYears : 0 ≤ year ∧ year < 400 := by omega
  -- Which years are leap years depends on the century, so the bounds are shown for each.
  have centuries : year / 100 = 0 ∨ year / 100 = 1 ∨ year / 100 = 2 ∨ year / 100 = 3 := by omega
  have begins : 365 * year + year / 4 - year / 100 ≤ day := by
    have leapDays : year / 4 ≤ day / 1460 := by omega
    rcases centuries with h | h | h | h <;> omega
  have ends : day ≤ 365 * year + year / 4 - year / 100 + 365 := by
    have leapDays : day / 1460 ≤ year / 4 + 1 := by omega
    rcases centuries with h | h | h | h <;> omega
  refine ⟨era, day, year, _, by omega, inEra, inYears, rfl, ⟨begins, ends⟩, ?_⟩
  split <;> split <;> split <;> omega

theorem Date.year_ofDays_iff (days : Int) :
    (-9999 ≤ (ofDays days).year ∧ (ofDays days).year ≤ 9999) ↔
      -4371587 ≤ days ∧ days < 2932897 := by
  obtain ⟨era, day, year, begun, counted, inEra, inYears, begunEq, within, eq⟩ :=
    exists_year_ofDays days
  rw [eq]
  split <;> omega

/-- The dates that can be written are those of the years -9999 to 9999. -/
theorem representableLocal_iff_inYears (n : Int) : RepresentableLocal n ↔ InYears n := by
  have nanosPerDay_eq : nanosPerDay = 86400000000000 := rfl
  rw [InYears, Date.year_ofDays_iff, RepresentableLocal, firstLocalNano, lastLocalNano,
    nanosPerDay_eq, Int.fdiv_eq_ediv_of_nonneg _ (by decide)]
  omega

/-- The years begin and end with these nanoseconds. -/
example : InYears firstLocalNano ∧ ¬ InYears (firstLocalNano - 1) ∧ InYears lastLocalNano ∧
    ¬ InYears (lastLocalNano + 1) := by
  decide

end TopicConsumer
