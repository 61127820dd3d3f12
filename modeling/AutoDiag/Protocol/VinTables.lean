import AutoDiag.Python.Builtins

/-!
# The tables of the VIN decoder

`_WMI_MANUFACTURER`, `_COUNTRY_2CHAR` and `_REGION_1CHAR` of `protocol/vin.py`, row
by row. A key that the source writes twice is twice here, with the same value.
-/

namespace AutoDiag.Vin

/-- `_WMI_MANUFACTURER`. -/
def wmiManufacturer : List (Str × String) :=
  [
    (['1', 'F', 'A'], "Ford"), (['1', 'F', 'B'], "Ford"), (['1', 'F', 'C'], "Ford"),
    (['1', 'F', 'D'], "Ford"), (['1', 'F', 'M'], "Ford"), (['1', 'F', 'T'], "Ford"),
    (['2', 'F', 'A'], "Ford"), (['2', 'F', 'M'], "Ford"), (['2', 'F', 'T'], "Ford"),
    (['3', 'F', 'A'], "Ford"), (['3', 'F', 'E'], "Ford"), (['W', 'F', '0'], "Ford"),
    (['W', 'F', '1'], "Ford"), (['6', 'F', 'P'], "Ford"), (['M', 'A', 'J'], "Ford"),
    (['N', 'M', '0'], "Ford"), (['L', 'F', 'A'], "Ford"), (['5', 'L', 'M'], "Lincoln"),
    (['1', 'L', 'N'], "Lincoln"), (['4', 'M', '2'], "Mercury"), (['1', 'M', 'E'], "Mercury"),
    (['1', 'G', '1'], "Chevrolet"), (['1', 'G', 'C'], "Chevrolet"), (['1', 'G', 'B'], "Chevrolet"),
    (['1', 'G', 'N'], "Chevrolet"), (['2', 'G', '1'], "Chevrolet"), (['3', 'G', '1'], "Chevrolet"),
    (['3', 'G', 'N'], "Chevrolet"), (['K', 'L', '1'], "Chevrolet"), (['1', 'G', 'T'], "GMC"),
    (['1', 'G', 'K'], "GMC"), (['1', 'G', 'D'], "GMC"), (['1', 'G', '4'], "Buick"),
    (['1', 'G', '6'], "Cadillac"), (['1', 'G', 'Y'], "Cadillac"), (['1', 'G', '2'], "Pontiac"),
    (['1', 'G', '8'], "Saturn"), (['5', 'G', 'A'], "Buick"), (['6', 'G', '1'], "Holden"),
    (['6', 'G', '2'], "Pontiac"), (['6', 'H', '8'], "Holden"), (['J', 'G', '1'], "Chevrolet"),
    (['1', 'C', '3'], "Chrysler"), (['1', 'C', '4'], "Chrysler"), (['1', 'C', '6'], "Chrysler"),
    (['2', 'C', '3'], "Chrysler"), (['3', 'C', '3'], "Chrysler"), (['3', 'C', '4'], "Chrysler"),
    (['1', 'B', '3'], "Dodge"), (['2', 'B', '3'], "Dodge"), (['1', 'D', '4'], "Dodge"),
    (['1', 'D', '7'], "Dodge"), (['2', 'D', '4'], "Dodge"), (['3', 'D', '7'], "Dodge"),
    (['1', 'J', '4'], "Jeep"), (['1', 'J', '8'], "Jeep"), (['1', 'C', '7'], "RAM"),
    (['3', 'C', '6'], "RAM"), (['J', 'T', '2'], "Toyota"), (['J', 'T', '3'], "Toyota"),
    (['J', 'T', '4'], "Toyota"), (['J', 'T', 'D'], "Toyota"), (['J', 'T', 'E'], "Toyota"),
    (['J', 'T', 'F'], "Toyota"), (['J', 'T', 'G'], "Toyota"), (['J', 'T', 'H'], "Lexus"),
    (['J', 'T', 'J'], "Lexus"), (['J', 'T', 'K'], "Toyota"), (['J', 'T', 'L'], "Toyota"),
    (['J', 'T', 'M'], "Toyota"), (['J', 'T', 'N'], "Toyota"), (['4', 'T', '1'], "Toyota"),
    (['4', 'T', '3'], "Toyota"), (['4', 'T', '4'], "Toyota"), (['5', 'T', 'B'], "Toyota"),
    (['5', 'T', 'D'], "Toyota"), (['5', 'T', 'E'], "Toyota"), (['5', 'T', 'F'], "Toyota"),
    (['2', 'T', '1'], "Toyota"), (['2', 'T', '2'], "Lexus"), (['M', 'R', '0'], "Toyota"),
    (['S', 'B', '1'], "Toyota"), (['6', 'T', '1'], "Toyota"), (['N', 'M', 'T'], "Toyota"),
    (['1', 'H', 'G'], "Honda"), (['2', 'H', 'G'], "Honda"), (['3', 'H', 'G'], "Honda"),
    (['1', 'H', 'F'], "Honda"), (['J', 'H', 'M'], "Honda"), (['J', 'H', 'L'], "Honda"),
    (['J', 'H', 'G'], "Honda"), (['S', 'H', 'H'], "Honda"), (['S', 'H', 'S'], "Honda"),
    (['2', 'H', 'K'], "Honda"), (['5', 'F', 'N'], "Honda"), (['5', 'F', 'P'], "Honda"),
    (['5', 'J', '6'], "Honda"), (['5', 'K', 'B'], "Honda"), (['1', '9', 'X'], "Honda"),
    (['1', '9', 'U'], "Acura"), (['J', 'H', '4'], "Acura"), (['1', '9', 'V'], "Acura"),
    (['2', 'H', 'H'], "Acura"), (['J', 'N', '1'], "Nissan"), (['J', 'N', '6'], "Nissan"),
    (['J', 'N', '8'], "Nissan"), (['1', 'N', '4'], "Nissan"), (['1', 'N', '6'], "Nissan"),
    (['3', 'N', '1'], "Nissan"), (['3', 'N', '6'], "Nissan"), (['5', 'N', '1'], "Nissan"),
    (['5', 'B', 'B'], "Nissan"), (['V', 'S', 'K'], "Nissan"), (['J', 'N', 'K'], "Infiniti"),
    (['J', 'N', 'R'], "Infiniti"), (['J', 'N', 'X'], "Infiniti"), (['5', 'N', '3'], "Infiniti"),
    (['W', 'V', 'W'], "Volkswagen"), (['W', 'V', '1'], "Volkswagen"),
    (['W', 'V', '2'], "Volkswagen"), (['W', 'V', 'G'], "Volkswagen"),
    (['1', 'V', 'W'], "Volkswagen"), (['3', 'V', 'W'], "Volkswagen"),
    (['9', 'B', 'W'], "Volkswagen"), (['A', 'A', 'V'], "Volkswagen"),
    (['8', 'A', 'W'], "Volkswagen"), (['W', 'A', 'U'], "Audi"), (['W', 'A', '1'], "Audi"),
    (['W', 'U', 'A'], "Audi"), (['T', 'R', 'U'], "Audi"), (['9', '3', 'U'], "Audi"),
    (['W', 'B', 'A'], "BMW"), (['W', 'B', 'S'], "BMW"), (['W', 'B', 'X'], "BMW"),
    (['W', 'B', 'Y'], "BMW"), (['4', 'U', 'S'], "BMW"), (['5', 'U', 'X'], "BMW"),
    (['5', 'U', 'M'], "BMW"), (['W', 'B', '1'], "BMW (motorrad)"), (['W', 'B', '4'], "BMW"),
    (['N', 'M', '4'], "BMW"), (['W', 'M', 'W'], "MINI"), (['W', 'D', 'B'], "Mercedes-Benz"),
    (['W', 'D', 'C'], "Mercedes-Benz"), (['W', 'D', 'D'], "Mercedes-Benz"),
    (['W', 'D', 'F'], "Mercedes-Benz"), (['W', '1', 'K'], "Mercedes-Benz"),
    (['W', '1', 'N'], "Mercedes-Benz"), (['W', '1', 'V'], "Mercedes-Benz"),
    (['4', 'J', 'G'], "Mercedes-Benz"), (['5', '5', 'S'], "Mercedes-Benz"),
    (['W', 'M', 'X'], "Mercedes-AMG"), (['W', 'M', 'E'], "Smart"), (['K', 'M', 'H'], "Hyundai"),
    (['K', 'M', 'F'], "Hyundai"), (['K', 'M', 'J'], "Hyundai"), (['5', 'N', 'P'], "Hyundai"),
    (['5', 'N', 'M'], "Hyundai"), (['T', 'M', 'A'], "Hyundai"), (['N', 'L', 'H'], "Hyundai"),
    (['K', 'N', 'A'], "Kia"), (['K', 'N', 'B'], "Kia"), (['K', 'N', 'D'], "Kia"),
    (['K', 'N', 'E'], "Kia"), (['K', 'N', 'M'], "Kia"), (['5', 'X', 'Y'], "Kia"),
    (['5', 'X', 'X'], "Kia"), (['3', 'K', 'P'], "Kia"), (['U', '5', 'Y'], "Kia"),
    (['K', 'M', 'T'], "Genesis"), (['Y', 'V', '1'], "Volvo"), (['Y', 'V', '4'], "Volvo"),
    (['Y', 'V', '5'], "Volvo"), (['7', 'J', 'R'], "Volvo"), (['L', 'V', 'Y'], "Volvo"),
    (['Y', 'B', '1'], "Volvo Trucks"), (['Y', 'V', '2'], "Volvo Trucks"),
    (['J', 'F', '1'], "Subaru"), (['J', 'F', '2'], "Subaru"), (['J', 'F', '3'], "Subaru"),
    (['4', 'S', '3'], "Subaru"), (['4', 'S', '4'], "Subaru"), (['4', 'S', '6'], "Subaru"),
    (['J', 'M', '1'], "Mazda"), (['J', 'M', '3'], "Mazda"), (['J', 'M', '6'], "Mazda"),
    (['J', 'M', '7'], "Mazda"), (['4', 'F', '2'], "Mazda"), (['4', 'F', '4'], "Mazda"),
    (['1', 'Y', 'V'], "Mazda"), (['3', 'M', 'Z'], "Mazda"), (['3', 'M', 'V'], "Mazda"),
    (['J', 'M', 'Z'], "Mazda"), (['J', 'A', '3'], "Mitsubishi"), (['J', 'A', '4'], "Mitsubishi"),
    (['J', 'A', '7'], "Mitsubishi"), (['4', 'A', '3'], "Mitsubishi"),
    (['4', 'A', '4'], "Mitsubishi"), (['6', 'M', 'M'], "Mitsubishi"),
    (['M', 'L', '0'], "Mitsubishi"), (['M', 'M', 'B'], "Mitsubishi"),
    (['M', 'M', 'T'], "Mitsubishi"), (['J', 'S', '1'], "Suzuki (motorcycle)"),
    (['J', 'S', '2'], "Suzuki"), (['J', 'S', '3'], "Suzuki"), (['K', 'L', '5'], "Suzuki"),
    (['M', 'A', '3'], "Suzuki"), (['T', 'S', 'M'], "Suzuki"), (['J', 'A', 'A'], "Isuzu"),
    (['J', 'A', 'B'], "Isuzu"), (['J', 'A', 'L'], "Isuzu"), (['4', 'N', 'U'], "Isuzu"),
    (['4', 'N', 'G'], "Isuzu"), (['J', 'D', 'A'], "Daihatsu"), (['5', 'Y', 'J'], "Tesla"),
    (['7', 'S', 'A'], "Tesla"), (['7', 'G', '2'], "Tesla"), (['X', 'P', '7'], "Tesla"),
    (['L', 'R', 'W'], "Tesla"), (['W', 'P', '0'], "Porsche"), (['W', 'P', '1'], "Porsche"),
    (['W', 'P', '2'], "Porsche"), (['S', 'A', 'L'], "Land Rover"), (['S', 'A', 'J'], "Jaguar"),
    (['S', 'A', 'D'], "Jaguar (Daimler)"), (['S', 'A', 'R'], "Rover"),
    (['V', 'F', '1'], "Renault"), (['V', 'F', '2'], "Renault"),
    (['V', 'F', '6'], "Renault (RVI truck)"), (['9', '3', 'Y'], "Renault"),
    (['8', 'A', '1'], "Renault"), (['V', 'N', 'V'], "Renault"), (['U', 'U', '1'], "Dacia"),
    (['U', 'U', '6'], "Dacia"), (['V', 'F', '3'], "Peugeot"), (['8', 'A', 'D'], "Peugeot"),
    (['9', '3', '6'], "Peugeot"), (['V', 'F', '7'], "Citroen"),
    (['V', 'S', '7'], "Citroen (Spain)"), (['V', 'R', '1'], "DS Automobiles"),
    (['W', '0', 'L'], "Opel"), (['W', '0', 'V'], "Opel"), (['S', 'E', 'D'], "Vauxhall"),
    (['Z', 'F', 'A'], "Fiat"), (['Z', 'F', 'C'], "Fiat"), (['Z', 'A', 'R'], "Alfa Romeo"),
    (['Z', 'L', 'A'], "Lancia"), (['Z', 'A', 'M'], "Maserati"), (['Z', 'F', 'F'], "Ferrari"),
    (['Z', 'H', 'W'], "Lamborghini"), (['Z', 'A', '9'], "Lamborghini"),
    (['S', 'C', 'F'], "Aston Martin"), (['S', 'C', 'B'], "Bentley"), (['S', 'C', 'C'], "Lotus"),
    (['S', 'C', 'A'], "Rolls-Royce"), (['S', 'C', 'E'], "DeLorean"),
    (['S', 'C', 'G'], "Koenigsegg"), (['Z', 'A', 'P'], "Piaggio"),
    (['Z', 'A', 'A'], "Autobianchi"), (['Z', 'G', 'U'], "Moto Guzzi"), (['V', 'S', 'S'], "SEAT"),
    (['T', 'M', 'B'], "Skoda"), (['T', 'M', 'P'], "Skoda"), (['Y', 'S', '3'], "Saab"),
    (['Y', 'S', '4'], "Saab (Scania trucks)"), (['X', 'L', 'E'], "Scania"),
    (['W', 'M', 'A'], "MAN"), (['Z', 'C', 'F'], "Iveco"), (['W', 'J', 'M'], "Iveco"),
    (['W', 'D', 'A'], "Mercedes-Benz (trucks)"), (['1', 'X', 'K'], "Kenworth"),
    (['1', 'X', 'P'], "Peterbilt"), (['2', 'N', 'P'], "Peterbilt"), (['1', 'N', 'P'], "Peterbilt"),
    (['1', 'F', 'U'], "Freightliner"), (['1', 'F', 'V'], "Freightliner"),
    (['3', 'A', 'K'], "Freightliner"), (['4', 'V', '4'], "Volvo Trucks"),
    (['4', 'V', '2'], "Volvo Trucks"), (['1', 'M', '1'], "Mack"), (['1', 'M', '2'], "Mack"),
    (['5', 'K', 'K'], "Hino"), (['J', 'H', 'B'], "Hino"),
    (['1', 'H', 'T'], "International/Navistar"), (['3', 'H', 'A'], "International/Navistar"),
    (['2', 'H', 'S'], "International/Navistar"), (['1', 'N', 'K'], "Kenworth"),
    (['4', 'U', 'Z'], "Freightliner (chassis)"), (['1', 'B', 'A'], "Blue Bird"),
    (['L', 'F', 'V'], "FAW-Volkswagen"), (['L', 'F', 'M'], "FAW"),
    (['L', 'G', 'B'], "Dongfeng/Nissan"), (['L', 'S', 'V'], "SAIC Volkswagen"),
    (['L', 'S', 'Y'], "Brilliance"), (['L', 'V', 'V'], "Chery"),
    (['L', 'V', 'S'], "Ford (Changan)"), (['L', 'G', 'X'], "BYD"), (['L', 'G', 'W'], "Great Wall"),
    (['L', 'J', 'D'], "Dongfeng"), (['L', 'B', '2'], "Geely"), (['L', '6', 'T'], "Geely"),
    (['L', 'Z', 'W'], "SAIC-GM-Wuling"), (['L', 'Y', 'V'], "Volvo (China)"),
    (['L', 'R', 'B'], "Buick (SGM)"), (['L', 'N', 'B'], "BMW Brilliance"),
    (['L', 'Z', 'G'], "Shaanxi"), (['L', 'F', 'B'], "FAW"), (['L', 'G', 'H'], "Dongfeng"),
    (['L', 'D', 'C'], "Dongfeng Peugeot"), (['L', 'V', 'R'], "Mazda (Changan)"),
    (['L', 'S', 'G'], "SAIC-GM (Buick)"), (['L', 'F', 'N'], "FAW"),
    (['M', 'A', 'T'], "Tata Motors"), (['M', 'A', '1'], "Mahindra"), (['M', 'A', '6'], "GM India"),
    (['M', 'B', 'H'], "Maruti Suzuki"), (['M', 'B', '1'], "Ashok Leyland"),
    (['M', 'A', 'K'], "Honda India"), (['M', 'A', 'L'], "Hyundai India"),
    (['M', 'A', 'B'], "Volkswagen India"), (['M', 'A', 'C'], "Tata"),
    (['M', 'E', '4'], "Honda (motorcycle India)"), (['6', 'M', 'P'], "Ford Australia"),
    (['6', 'H', '8'], "Holden"), (['7', 'A', '3'], "Trackmaster (NZ)"),
    (['6', 'A', 'B'], "MG Australia"), (['9', 'B', 'W'], "Volkswagen"),
    (['9', 'B', 'D'], "Fiat (Brazil)"), (['9', 'B', 'G'], "Chevrolet (Brazil)"),
    (['9', 'B', 'F'], "Ford (Brazil)"), (['9', 'B', 'R'], "Toyota (Brazil)"),
    (['9', 'B', 'M'], "Mercedes-Benz (Brazil)"), (['8', 'A', 'P'], "Fiat (Argentina)"),
    (['8', 'A', 'G'], "Chevrolet (Argentina)"), (['8', 'A', 'F'], "Ford (Argentina)"),
    (['8', 'A', 'K'], "Suzuki (Argentina)"), (['9', '3', 'H'], "Honda (Brazil)"),
    (['9', '3', 'X'], "Mitsubishi (Brazil)"), (['J', 'Y', 'A'], "Yamaha"),
    (['J', 'K', 'A'], "Kawasaki"), (['J', 'K', 'B'], "Kawasaki"), (['Y', '6', 'D'], "ZAZ"),
    (['X', 'T', 'A'], "Lada/AvtoVAZ"), (['X', 'W', '8'], "Volkswagen (Russia)"),
    (['X', '4', 'X'], "BMW (Russia)"), (['Z', '9', '4'], "Hyundai (Russia)"),
    (['X', 'W', '7'], "Toyota (Russia)"), (['K', 'P', 'T'], "SsangYong"),
    (['K', 'P', 'A'], "SsangYong"), (['K', 'L', '3'], "GM Korea"), (['K', 'L', 'A'], "Daewoo"),
    (['K', 'L', 'Y'], "Daewoo")
  ]

/-- One row of `_COUNTRY_2CHAR`: the first and the last prefix, both included. -/
structure CountryRow where
  start : Char × Char
  stop : Char × Char
  region : String
  country : String
  deriving DecidableEq, Repr

/-- `_COUNTRY_2CHAR`. -/
def country2Char : List CountryRow :=
  [
    ⟨('A', 'A'), ('A', 'H'), "Africa", "South Africa"⟩,
    ⟨('A', 'J'), ('A', 'N'), "Africa", "Ivory Coast"⟩,
    ⟨('A', 'P'), ('A', '0'), "Africa", "not assigned"⟩,
    ⟨('B', 'A'), ('B', 'E'), "Africa", "Angola"⟩, ⟨('B', 'F'), ('B', 'K'), "Africa", "Kenya"⟩,
    ⟨('B', 'L'), ('B', 'R'), "Africa", "Tanzania"⟩, ⟨('C', 'A'), ('C', 'E'), "Africa", "Benin"⟩,
    ⟨('C', 'F'), ('C', 'K'), "Africa", "Madagascar"⟩,
    ⟨('C', 'L'), ('C', 'R'), "Africa", "Tunisia"⟩, ⟨('D', 'A'), ('D', 'E'), "Africa", "Egypt"⟩,
    ⟨('D', 'F'), ('D', 'K'), "Africa", "Morocco"⟩, ⟨('D', 'L'), ('D', 'R'), "Africa", "Zambia"⟩,
    ⟨('E', 'A'), ('E', 'E'), "Africa", "Ethiopia"⟩,
    ⟨('E', 'F'), ('E', 'K'), "Africa", "Mozambique"⟩, ⟨('F', 'A'), ('F', 'E'), "Africa", "Ghana"⟩,
    ⟨('F', 'F'), ('F', 'K'), "Africa", "Nigeria"⟩, ⟨('J', 'A'), ('J', '0'), "Asia", "Japan"⟩,
    ⟨('K', 'A'), ('K', 'E'), "Asia", "Sri Lanka"⟩, ⟨('K', 'F'), ('K', 'K'), "Asia", "Israel"⟩,
    ⟨('K', 'L'), ('K', 'R'), "Asia", "South Korea"⟩,
    ⟨('K', 'S'), ('K', '0'), "Asia", "Kazakhstan"⟩, ⟨('L', 'A'), ('L', '0'), "Asia", "China"⟩,
    ⟨('M', 'A'), ('M', 'E'), "Asia", "India"⟩, ⟨('M', 'F'), ('M', 'K'), "Asia", "Indonesia"⟩,
    ⟨('M', 'L'), ('M', 'R'), "Asia", "Thailand"⟩, ⟨('M', 'S'), ('M', '0'), "Asia", "Myanmar"⟩,
    ⟨('N', 'A'), ('N', 'E'), "Asia", "Iran"⟩, ⟨('N', 'F'), ('N', 'K'), "Asia", "Pakistan"⟩,
    ⟨('N', 'L'), ('N', 'R'), "Asia", "Turkey"⟩, ⟨('P', 'A'), ('P', 'E'), "Asia", "Philippines"⟩,
    ⟨('P', 'F'), ('P', 'K'), "Asia", "Singapore"⟩, ⟨('P', 'L'), ('P', 'R'), "Asia", "Malaysia"⟩,
    ⟨('R', 'A'), ('R', 'E'), "Asia", "United Arab Emirates"⟩,
    ⟨('R', 'F'), ('R', 'K'), "Asia", "Taiwan"⟩, ⟨('R', 'L'), ('R', 'R'), "Asia", "Vietnam"⟩,
    ⟨('R', 'S'), ('R', '0'), "Asia", "Saudi Arabia"⟩,
    ⟨('S', 'A'), ('S', 'M'), "Europe", "United Kingdom"⟩,
    ⟨('S', 'N'), ('S', 'T'), "Europe", "Germany"⟩, ⟨('S', 'U'), ('S', 'Z'), "Europe", "Poland"⟩,
    ⟨('T', 'A'), ('T', 'H'), "Europe", "Switzerland"⟩,
    ⟨('T', 'J'), ('T', 'P'), "Europe", "Czech Republic"⟩,
    ⟨('T', 'R'), ('T', 'V'), "Europe", "Hungary"⟩, ⟨('T', 'W'), ('T', '1'), "Europe", "Portugal"⟩,
    ⟨('U', 'H'), ('U', 'M'), "Europe", "Denmark"⟩, ⟨('U', 'N'), ('U', 'T'), "Europe", "Ireland"⟩,
    ⟨('U', 'U'), ('U', 'Z'), "Europe", "Romania"⟩, ⟨('U', '5'), ('U', '7'), "Asia", "South Korea"⟩,
    ⟨('V', 'A'), ('V', 'E'), "Europe", "Austria"⟩, ⟨('V', 'F'), ('V', 'R'), "Europe", "France"⟩,
    ⟨('V', 'S'), ('V', 'W'), "Europe", "Spain"⟩, ⟨('V', 'X'), ('V', '2'), "Europe", "Serbia"⟩,
    ⟨('V', '3'), ('V', '5'), "Europe", "Croatia"⟩, ⟨('V', '6'), ('V', '0'), "Europe", "Estonia"⟩,
    ⟨('W', 'A'), ('W', '0'), "Europe", "Germany"⟩, ⟨('X', 'A'), ('X', 'E'), "Europe", "Bulgaria"⟩,
    ⟨('X', 'F'), ('X', 'K'), "Europe", "Greece"⟩,
    ⟨('X', 'L'), ('X', 'R'), "Europe", "Netherlands"⟩,
    ⟨('X', 'S'), ('X', 'W'), "Europe", "USSR/CIS"⟩,
    ⟨('X', 'X'), ('X', '2'), "Europe", "Luxembourg"⟩, ⟨('X', '3'), ('X', '0'), "Europe", "Russia"⟩,
    ⟨('Y', 'A'), ('Y', 'E'), "Europe", "Belgium"⟩, ⟨('Y', 'F'), ('Y', 'K'), "Europe", "Finland"⟩,
    ⟨('Y', 'L'), ('Y', 'R'), "Europe", "Sweden"⟩, ⟨('Y', 'S'), ('Y', 'W'), "Europe", "Norway"⟩,
    ⟨('Y', 'X'), ('Y', '2'), "Europe", "Belarus"⟩, ⟨('Y', '3'), ('Y', '0'), "Europe", "Ukraine"⟩,
    ⟨('Z', 'A'), ('Z', 'R'), "Europe", "Italy"⟩, ⟨('Z', 'X'), ('Z', '2'), "Europe", "Slovenia"⟩,
    ⟨('Z', '3'), ('Z', '5'), "Europe", "Lithuania"⟩, ⟨('Z', '6'), ('Z', '0'), "Europe", "Russia"⟩,
    ⟨('1', 'A'), ('1', '0'), "North America", "United States"⟩,
    ⟨('2', 'A'), ('2', '0'), "North America", "Canada"⟩,
    ⟨('3', 'A'), ('3', 'W'), "North America", "Mexico"⟩,
    ⟨('3', 'X'), ('3', '7'), "North America", "Costa Rica"⟩,
    ⟨('3', '8'), ('3', '0'), "North America", "Cayman Islands"⟩,
    ⟨('4', 'A'), ('4', '0'), "North America", "United States"⟩,
    ⟨('5', 'A'), ('5', '0'), "North America", "United States"⟩,
    ⟨('6', 'A'), ('6', 'W'), "Oceania", "Australia"⟩,
    ⟨('7', 'A'), ('7', 'E'), "Oceania", "New Zealand"⟩,
    ⟨('8', 'A'), ('8', 'E'), "South America", "Argentina"⟩,
    ⟨('8', 'F'), ('8', 'K'), "South America", "Chile"⟩,
    ⟨('8', 'L'), ('8', 'R'), "South America", "Ecuador"⟩,
    ⟨('8', 'S'), ('8', 'W'), "South America", "Peru"⟩,
    ⟨('8', 'X'), ('8', '2'), "South America", "Venezuela"⟩,
    ⟨('9', 'A'), ('9', 'E'), "South America", "Brazil"⟩,
    ⟨('9', 'F'), ('9', 'K'), "South America", "Colombia"⟩,
    ⟨('9', 'L'), ('9', 'R'), "South America", "Paraguay"⟩,
    ⟨('9', 'S'), ('9', 'W'), "South America", "Uruguay"⟩,
    ⟨('9', 'X'), ('9', '2'), "South America", "Trinidad and Tobago"⟩,
    ⟨('9', '3'), ('9', '9'), "South America", "Brazil"⟩
  ]

/-- `_REGION_1CHAR`. -/
def region1Char : List (Char × String) :=
  [
    ('1', "North America"), ('2', "North America"), ('3', "North America"), ('4', "North America"),
    ('5', "North America"), ('6', "Oceania"), ('7', "Oceania"), ('8', "South America"),
    ('9', "South America"), ('0', "South America"), ('A', "Africa"), ('B', "Africa"),
    ('C', "Africa"), ('D', "Africa"), ('E', "Africa"), ('F', "Africa"), ('G', "Africa"),
    ('H', "Africa"), ('J', "Asia"), ('K', "Asia"), ('L', "Asia"), ('M', "Asia"), ('N', "Asia"),
    ('P', "Asia"), ('R', "Asia"), ('S', "Europe"), ('T', "Europe"), ('U', "Europe"),
    ('V', "Europe"), ('W', "Europe"), ('X', "Europe"), ('Y', "Europe"), ('Z', "Europe")
  ]

end AutoDiag.Vin
