import SlotBooking.Text.Quoted
import SlotBooking.Text.Digit
import SlotBooking.Json.Reader
import SlotBooking.Json.Writer
import SlotBooking.Calendar.Instant
import SlotBooking.Schedule.TimeOfDay
import SlotBooking.Schedule.Window
import SlotBooking.Schedule.Grid
import SlotBooking.Booking.Basic
import SlotBooking.Directory.Lookup
import SlotBooking.Failure
import SlotBooking.Availability
import SlotBooking.Booking.Lifecycle
import SlotBooking.Capacity.Management
import SlotBooking.Web.Response
import SlotBooking.Settings
import SlotBooking.Proofs.Store
import SlotBooking.Proofs.Effect
import SlotBooking.Proofs.Run
import SlotBooking.Proofs.History
import SlotBooking.Proofs.Occupancy
import SlotBooking.Proofs.Capacity
import SlotBooking.Proofs.Directory
import SlotBooking.Proofs.TimeOfDay
import SlotBooking.Proofs.WrittenTime
import SlotBooking.Proofs.Admission
import SlotBooking.Proofs.Agreement
import SlotBooking.Proofs.Resolution
import SlotBooking.Proofs.Contact
import SlotBooking.Proofs.RuleTable
import SlotBooking.Proofs.RuleWrites
import SlotBooking.Proofs.Cache
import SlotBooking.Proofs.Repetition
import SlotBooking.Proofs.Withdrawal
import SlotBooking.Proofs.Filling
import SlotBooking.Proofs.OpeningHours
import SlotBooking.Proofs.AvailabilityFailures
import SlotBooking.Proofs.Confidentiality
import SlotBooking.Proofs.Isolation
import SlotBooking.Proofs.Attribution
import SlotBooking.Proofs.WriteRequests
import SlotBooking.Proofs.Interleaving
import SlotBooking.Proofs.Tiling
import SlotBooking.Proofs.Places
import SlotBooking.Proofs.Listing
import SlotBooking.Proofs.Chronology
import SlotBooking.Proofs.SharedMinutes
import SlotBooking.Proofs.UnknownIds
import SlotBooking.Proofs.Independence
import SlotBooking.Proofs.ReadBack
