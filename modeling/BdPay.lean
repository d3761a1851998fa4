import BdPay.Ledger.CalendarExt
import BdPay.Ledger.Gate
import BdPay.Ledger.Holds
import BdPay.Ledger.Replay
import BdPay.Ledger.Unsealed
import BdPay.Ledger.Position.CapHistory
import BdPay.Ledger.Settlement.AmlHolds
import BdPay.Ledger.Settlement.Approvals
import BdPay.Ledger.Settlement.Fees
import BdPay.Ledger.Settlement.Recovery
import BdPay.Kernel.BatchApproval
import BdPay.Kernel.RefundReference
import BdPay.Kernel.Repeats
import BdPay.Kernel.RefundSafety
import BdPay.Connectors.Stranded
import BdPay.Connectors.Rails.Unpacking
import BdPay.Connectors.Rails.NpsbInbound
import BdPay.Compliance.Clearing
import BdPay.Qr.Crc
import BdPay.Platform.Forms
