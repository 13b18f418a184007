import PacketRadio.Limits
import PacketRadio.Text
import PacketRadio.Period
import PacketRadio.Countdown
import PacketRadio.Settings
import PacketRadio.Handle
import PacketRadio.Buffer
import PacketRadio.Packet
import PacketRadio.RingBuffer
import PacketRadio.Callback
import PacketRadio.Link
import PacketRadio.Link.Serial
import PacketRadio.Exchange
import PacketRadio.Transport
import PacketRadio.Transport.Immediate
import PacketRadio.Junction
import PacketRadio.Failure
import PacketRadio.TickTable
import PacketRadio.Radio
import PacketRadio.Pool
import PacketRadio.Station
import PacketRadio.Proofs.Record
import PacketRadio.Proofs.Call
import PacketRadio.Proofs.Conduct
import PacketRadio.Proofs.Mirror
import PacketRadio.Proofs.Scene
import PacketRadio.Proofs.Stream
import PacketRadio.Proofs.Deadline
import PacketRadio.Proofs.Serial.Honest
import PacketRadio.Proofs.Serial.Pump
import PacketRadio.Proofs.Serial.Conservation
import PacketRadio.Proofs.Wire
import PacketRadio.Proofs.EndToEnd
import PacketRadio.Proofs.Custody
import PacketRadio.Proofs.Journal
import PacketRadio.Proofs.Serial.Inlet
import PacketRadio.Proofs.Window
import PacketRadio.Proofs.Reception
import PacketRadio.Proofs.Confined
import PacketRadio.Proofs.Territory
import PacketRadio.Proofs.Isolation
import PacketRadio.Proofs.Tenancy
import PacketRadio.Proofs.Validation
import PacketRadio.Proofs.Abreast
import PacketRadio.Proofs.Alongside
import PacketRadio.Proofs.Resilience
import PacketRadio.Proofs.Residue
import PacketRadio.Proofs.Threshold
import PacketRadio.Proofs.Discipline
import PacketRadio.Proofs.Distribution
import PacketRadio.Proofs.Hearsay
import PacketRadio.Proofs.Lending
import PacketRadio.Proofs.AppendBuffer
import PacketRadio.Proofs.Timeout
import PacketRadio.Proofs.Cycle
import PacketRadio.Proofs.Checked.Fault
import PacketRadio.Proofs.Checked.Packet
import PacketRadio.Proofs.Checked.Radio
import PacketRadio.Proofs.Checked.Station
import PacketRadio.Proofs.Serial.Access
import PacketRadio.Proofs.Serial.Bounds
import PacketRadio.Proofs.Serial.Leftover
import PacketRadio.Proofs.Serial.Spool
import PacketRadio.Proofs.Serial.Position
import PacketRadio.Proofs.Yield
