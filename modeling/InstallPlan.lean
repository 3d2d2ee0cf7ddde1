import InstallPlan.Main
import InstallPlan.Proofs.Agreement
import InstallPlan.Proofs.Announcement
import InstallPlan.Proofs.Capacity
import InstallPlan.Proofs.Capture
import InstallPlan.Proofs.Closing
import InstallPlan.Proofs.Completion
import InstallPlan.Proofs.Course
import InstallPlan.Proofs.Cutting
import InstallPlan.Proofs.Decoding
import InstallPlan.Proofs.Delivery
import InstallPlan.Proofs.Diagnosis
import InstallPlan.Proofs.Disclosure
import InstallPlan.Proofs.Encoding
import InstallPlan.Proofs.Execution
import InstallPlan.Proofs.Faults
import InstallPlan.Proofs.Filling
import InstallPlan.Proofs.Grammar
import InstallPlan.Proofs.Masking
import InstallPlan.Proofs.Observation
import InstallPlan.Proofs.Printing
import InstallPlan.Proofs.Reading
import InstallPlan.Proofs.Redaction
import InstallPlan.Proofs.Rows
import InstallPlan.Proofs.Stopping
import InstallPlan.Proofs.Targeting
import InstallPlan.Proofs.Variables
import InstallPlan.Proofs.Words
import InstallPlan.Proofs.Recovering
import InstallPlan.Proofs.Absence
import InstallPlan.Proofs.Reviewing
import InstallPlan.Proofs.Locating
import InstallPlan.Proofs.Choosing
import InstallPlan.Proofs.Omission
import InstallPlan.Proofs.Recognition
import InstallPlan.Proofs.Tables
import InstallPlan.Proofs.Rehearsing
import InstallPlan.Proofs.Inheriting
